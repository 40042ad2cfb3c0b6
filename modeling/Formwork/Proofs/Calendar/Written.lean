import Formwork.Proofs.Calendar.Counting
import Formwork.Proofs.Calendar.Template
import Formwork.Rule.Check

/-! # Reading what was written

A date that is written by the items of a pattern is read by them again. No item runs into the
next: numbers are written with all their digits and read with no more, blanks end before what is
no blank, and other text is compared as it is. A component that occurs more than once was
written with one value; one that does not occur is read as that of the first moment of year 0. So
the check of a date undoes the writing of every date whose missing components are those
(`Rule.check_date_written`).
-/

namespace Formwork

namespace Decimal

theorem length_digits_le {n k : Nat} (h : n < Nat.pow 10 (k + 1)) : (digits n).length ≤ k + 1 := by
  induction k generalizing n with
  | zero =>
      have hn : n < 10 := h
      rw [digits, if_pos hn]
      exact Nat.le_refl 1
  | succ k ih =>
      have hdiv : n / 10 < Nat.pow 10 (k + 1) := Nat.div_lt_of_lt_mul (by rwa [Nat.mul_comm])
      rw [digits]
      split
      · simp
      · have hle := ih hdiv
        simp only [List.length_append, List.length_singleton]
        omega

theorem length_padded {n k : Nat} (h : n < Nat.pow 10 (k + 1)) :
    (padded (k + 1) n).length = k + 1 := by
  have hle := length_digits_le h
  rw [padded, List.length_append, List.length_replicate]
  omega

theorem value_replicate_append (k : Nat) (cs : List Char) :
    value (List.replicate k '0' ++ cs) = value cs := by
  induction k with
  | zero => rfl
  | succ k ih => rw [← ih]; rfl

theorem padded_ne_nil (width n : Nat) : padded width n ≠ [] := by
  intro h
  exact digits_ne_nil n (List.append_eq_nil_iff.1 h).2

theorem padded_eq_cons (width n : Nat) :
    ∃ c cs, padded width n = c :: cs ∧ CharClass.isAsciiDigit c = true := by
  obtain ⟨c, cs, hcs⟩ := List.exists_cons_of_ne_nil (padded_ne_nil width n)
  have hc : c ∈ padded width n := by
    rw [hcs]
    exact List.mem_cons_self
  exact ⟨c, cs, hcs, isAsciiDigit_of_mem_padded hc⟩

/-- Reading undoes writing, zeros in front or not. -/
theorem natOf?_padded (width n : Nat) : natOf? (padded width n) = some n := by
  have hall : (padded width n).all CharClass.isAsciiDigit = true :=
    List.all_eq_true.2 fun _ hc => isAsciiDigit_of_mem_padded hc
  have hempty : (padded width n).isEmpty = false := by
    simpa using padded_ne_nil width n
  rw [natOf?, hall, hempty]
  show some (value (padded width n)) = some n
  rw [padded, value_replicate_append, value_digits]

end Decimal

/-- The year has four digits, and the time is that of a clock with whole seconds. -/
structure DateTime.IsOrdinary (d : DateTime) : Prop where
  year_nonneg : 0 ≤ d.date.year
  year_le : d.date.year ≤ 9999
  whole : d.time.IsWhole

namespace Calendar

/-! ## Components -/

/-- The component's number in a date. -/
def Component.value (d : DateTime) : Component → Int
  | .year => d.date.year
  | .month => d.date.month
  | .day => d.date.day
  | .hour => d.time.hour
  | .minute => d.time.minute
  | .second => d.time.second

/-- The component's number in the first moment of year 0. -/
def Component.default : Component → Int
  | .month | .day => 1
  | _ => 0

/-- How many digits a component is written with. -/
def Component.width : Component → Nat
  | .year => 4
  | _ => 2

variable {d : DateTime} {component : Component} {cs more : List Char}

theorem daysInMonth_le (year : Int) (month : Nat) : daysInMonth year month ≤ 31 := by
  unfold daysInMonth
  split
  · split <;> omega
  · split <;> omega

theorem admits_value (hd : d.IsOrdinary) (component : Component) :
    component.admits (component.value d) = true := by
  obtain ⟨_, _, hmonth, hmonth', hday, hday'⟩ := d.date.isDate
  have hlong := daysInMonth_le d.date.year d.date.month
  obtain ⟨hyear, hyear', hhour, hminute, hsecond, _⟩ := hd
  cases component
  all_goals
    simp only [Component.admits, Bool.and_eq_true, decide_eq_true_eq]
    simp only [Component.value]
    omega

/-- A component is written with all its digits. -/
theorem write_eq_padded (hd : d.IsOrdinary) (component : Component) :
    ∃ n : Nat, component.value d = n ∧ n < Nat.pow 10 component.width ∧
      component.write d = Decimal.padded component.width n := by
  obtain ⟨_, _, hmonth, hmonth', hday, hday'⟩ := d.date.isDate
  have hlong := daysInMonth_le d.date.year d.date.month
  obtain ⟨hyear, hyear', hhour, hminute, hsecond, _⟩ := hd
  cases component with
  | year =>
      refine ⟨d.date.year.toNat, (Int.toNat_of_nonneg hyear).symm, ?_, ?_⟩
      · show d.date.year.toNat < 10000
        omega
      · rw [Component.write, yearChars, if_pos ⟨hyear, hyear'⟩]
        rfl
  | month => exact ⟨d.date.month, rfl, show d.date.month < 100 by omega, rfl⟩
  | day => exact ⟨d.date.day, rfl, show d.date.day < 100 by omega, rfl⟩
  | hour => exact ⟨d.time.hour, rfl, show d.time.hour < 100 by omega, rfl⟩
  | minute => exact ⟨d.time.minute, rfl, show d.time.minute < 100 by omega, rfl⟩
  | second => exact ⟨d.time.second, rfl, show d.time.second < 100 by omega, rfl⟩

theorem digits?_padded {width n : Nat} (hn : n < Nat.pow 10 (width + 1))
    (hmax : (n : Int) ≤ Word64.maxSigned) (more : List Char) :
    digits? (some (width + 1)) (Decimal.padded (width + 1) n ++ more) = some (n, more) := by
  have hrun : ((Decimal.padded (width + 1) n ++ more).takeWhile CharClass.isAsciiDigit).take
      (width + 1) = Decimal.padded (width + 1) n := by
    rw [List.takeWhile_append_of_pos fun c hc => Decimal.isAsciiDigit_of_mem_padded hc,
      List.take_append_of_le_length (Decimal.length_padded hn).ge,
      List.take_of_length_le (Decimal.length_padded hn).le]
  unfold digits?
  simp only [hrun, Decimal.natOf?_padded, hmax, if_true, List.drop_left]

/-- A component is read up to its last digit. -/
theorem read?_write (hd : d.IsOrdinary) (component : Component) (more : List Char) :
    component.read? (component.write d ++ more) = some (component.value d, more) := by
  obtain ⟨n, hvalue, hlt, hwrite⟩ := write_eq_padded hd component
  have hmax : (n : Int) ≤ Word64.maxSigned := by
    have hle : n < 10000 := by
      cases component with
      | year => exact hlt
      | _ => exact Nat.lt_of_lt_of_le hlt (show Nat.pow 10 2 ≤ 10000 by decide)
    unfold Word64.maxSigned
    omega
  obtain ⟨c, digits, hdigits, hc⟩ := Decimal.padded_eq_cons component.width n
  have hdrop : (component.write d ++ more).dropWhile CharClass.isSpace =
      Decimal.padded component.width n ++ more := by
    rw [hwrite, hdigits, List.cons_append,
      List.dropWhile_cons_of_neg (by simp [CharClass.isSpace_of_isAsciiDigit hc])]
  have hfour : component.width = 3 + 1 ∨ component.width = 1 + 1 := by
    cases component
    all_goals simp [Component.width]
  have hread : digits? (some component.width) (Decimal.padded component.width n ++ more) =
      some (n, more) := by
    rcases hfour with hw | hw
    · rw [hw] at hlt ⊢
      exact digits?_padded hlt hmax more
    · rw [hw] at hlt ⊢
      exact digits?_padded hlt hmax more
  have hplain : ∀ sign rest, CharClass.isAsciiDigit sign = false →
      Decimal.padded component.width n ++ more ≠ sign :: rest := by
    intro sign rest hs heq
    rw [hdigits] at heq
    cases heq
    rw [hc] at hs
    cases hs
  rw [hvalue]
  cases component with
  | year =>
      unfold Component.read?
      rw [hdrop]
      split
      · rename_i heq
        exact absurd heq (hplain '-' _ (by decide))
      · rename_i heq
        exact absurd heq (hplain '+' _ (by decide))
      · exact congrArg (Option.map _) hread
      · rename_i hyear _ _
        exact absurd rfl hyear
  | _ =>
      rw [Component.read?, hdrop]
      · exact congrArg (Option.map _) hread
      all_goals nofun

/-! ## Items -/

/-- Items that do not run into each other: other text does not begin with a blank, and no two
runs of blanks stand side by side. -/
inductive Separate : List Item → Prop
  | nil : Separate []
  | literal {c : Char} {text : List Char} {its : List Item} (solid : CharClass.isSpace c = false)
      (rest : Separate its) : Separate (.literal (c :: text) :: its)
  | blanks {text : List Char} {its : List Item} (blank : ∀ c ∈ text, CharClass.isSpace c = true)
      (alone : ∀ more others, its ≠ .blanks more :: others) (rest : Separate its) :
      Separate (.blanks text :: its)
  | number {component : Component} {its : List Item} (rest : Separate its) :
      Separate (.number component :: its)

/-- The items of a pattern do not run into each other. -/
theorem separate_items (h : .unknown ∉ items cs) : Separate (items cs) := by
  fun_induction items cs with
  | case1 => exact .nil
  | case2 rest ih => exact .literal (by decide) (ih (List.not_mem_of_not_mem_cons h))
  | case3 c rest _ component _ ih => exact .number (ih (List.not_mem_of_not_mem_cons h))
  | case4 => exact absurd List.mem_cons_self h
  | case5 => exact absurd List.mem_cons_self h
  | case6 c rest _ _ _ hs text others he ih =>
      rw [he] at ih
      cases ih (fun hm => h (by simpa using hm)) with
      | blanks blank alone hrest =>
          exact .blanks (List.forall_mem_cons.2 ⟨hs, blank⟩) alone hrest
  | case7 c rest _ _ _ hs hno ih =>
      exact .blanks (by simpa using hs) hno (ih (List.not_mem_of_not_mem_cons h))
  | case8 c rest _ _ _ hs ih =>
      exact .literal (by simpa using hs) (ih (List.not_mem_of_not_mem_cons h))

variable {its : List Item}

/-- What stands behind a run of blanks begins with no blank. -/
theorem dropWhile_write (hd : d.IsOrdinary) (hs : Separate its)
    (halone : ∀ more others, its ≠ .blanks more :: others) :
    (write d its).dropWhile CharClass.isSpace = write d its := by
  cases hs with
  | nil => rfl
  | literal solid rest =>
      show List.dropWhile _ (_ :: _) = _
      rw [List.dropWhile_cons_of_neg (by simp [solid])]
      rfl
  | blanks => exact absurd rfl (halone _ _)
  | @number component its rest =>
      obtain ⟨n, _, _, hwrite⟩ := write_eq_padded hd component
      obtain ⟨c, digits, hdigits, hc⟩ := Decimal.padded_eq_cons component.width n
      show List.dropWhile _ (component.write d ++ write d its) = component.write d ++ write d its
      rw [hwrite, hdigits, List.cons_append,
        List.dropWhile_cons_of_neg (by simp [CharClass.isSpace_of_isAsciiDigit hc])]

/-! ## Parts -/

/-- What has been read of a component. -/
def Parts.get (parts : Parts) : Component → Option Int
  | .year => parts.year
  | .month => parts.month
  | .day => parts.day
  | .hour => parts.hour
  | .minute => parts.minute
  | .second => parts.second

theorem agree?_of_held {held : Option Int} {n : Int} (h : ∀ m ∈ held, m = n) :
    agree? held n = some (some n) := by
  cases held with
  | none => rfl
  | some m =>
      have hm : m = n := h m rfl
      rw [agree?, if_pos hm, hm]

/-- A number is recorded, where nothing else was recorded before, and nothing but it. -/
theorem record?_of_held {parts : Parts} {n : Int} (ha : component.admits n = true)
    (h : ∀ m ∈ parts.get component, m = n) :
    ∃ next, parts.record? component n = some next ∧ next.nanosecond = parts.nanosecond ∧
      ∀ other, next.get other = if other = component then some n else parts.get other := by
  have hagree := agree?_of_held h
  unfold Parts.record?
  rw [if_pos ha]
  cases component
  all_goals
    simp only [Parts.get] at hagree
    rw [hagree]
    refine ⟨_, rfl, rfl, fun other => ?_⟩
    cases other <;> rfl

/-- Reading what was written records the components that occur, each with its number. -/
theorem readItems?_write (hd : d.IsOrdinary) (hs : Separate its) {parts : Parts}
    (hp : ∀ component, ∀ n ∈ parts.get component, n = component.value d) :
    ∃ next, readItems? parts (write d its) its = some (next, []) ∧
      next.nanosecond = parts.nanosecond ∧
      ∀ component, next.get component =
        if .number component ∈ its then some (component.value d) else parts.get component := by
  induction hs generalizing parts with
  | nil => exact ⟨parts, rfl, rfl, fun component => by simp⟩
  | @literal c text its solid rest ih =>
      obtain ⟨next, hread, hnano, hget⟩ := ih hp
      refine ⟨next, ?_, hnano, by simpa using hget⟩
      show ((c :: text).isPrefixOf? ((c :: text) ++ write d its)).bind _ = _
      rw [Cut.isPrefixOf?_append, Option.bind_some, hread]
  | @blanks text its blank alone rest ih =>
      obtain ⟨next, hread, hnano, hget⟩ := ih hp
      refine ⟨next, ?_, hnano, by simpa using hget⟩
      show readItems? parts ((text ++ write d its).dropWhile CharClass.isSpace) its = _
      rw [List.dropWhile_append_of_pos blank, dropWhile_write hd rest alone, hread]
  | @number component its rest ih =>
      obtain ⟨middle, hrecord, hmiddle, hheld⟩ := record?_of_held (admits_value hd component)
        (hp component)
      have hconsistent : ∀ other, ∀ n ∈ middle.get other, n = other.value d := by
        intro other n hn
        rw [hheld] at hn
        split at hn
        · rename_i hsame
          cases hn
          rw [hsame]
        · exact hp other n hn
      obtain ⟨next, hread, hnano, hget⟩ := ih hconsistent
      refine ⟨next, ?_, hnano.trans hmiddle, fun other => ?_⟩
      · show (component.read? (component.write d ++ write d its)).bind _ = _
        rw [read?_write hd, Option.bind_some]
        show (parts.record? component (component.value d)).bind _ = _
        rw [hrecord, Option.bind_some, hread]
      · rw [hget, hheld]
        by_cases hsame : other = component
        · simp [hsame]
        · simp [hsame]

/-- A date is made of parts that hold its numbers or, where they are defaults, nothing. -/
theorem toDateTime?_of_parts (hd : d.IsOrdinary) {parts : Parts} (hnano : parts.nanosecond = none)
    (hp : ∀ component, (parts.get component).getD component.default = component.value d) :
    parts.toDateTime? = some d := by
  obtain ⟨⟨year, month, day, isDate⟩, hour, minute, second, nanosecond⟩ := d
  have hyear : parts.year.getD 0 = year := hp .year
  have hmonth : parts.month.getD 1 = month := hp .month
  have hday : parts.day.getD 1 = day := hp .day
  have hhour : parts.hour.getD 0 = hour := hp .hour
  have hminute : parts.minute.getD 0 = minute := hp .minute
  have hsecond : parts.second.getD 0 = second := hp .second
  have hzero : nanosecond = 0 := hd.whole.nanosecond
  have hdate : Date.ofParts? year (month : Int).toNat (day : Int).toNat =
      some ⟨year, month, day, isDate⟩ := dif_pos isDate
  rw [Parts.toDateTime?, hyear, hmonth, hday, hhour, hminute, hsecond, hnano, hzero, hdate]
  rfl

/-- The items of a template read what they have written, if the components that do not occur
are those of the first moment of year 0. -/
theorem read?_templateItems (hd : d.IsOrdinary) (template : String)
    (hdefault : ∀ component, .number component ∉ templateItems template →
      component.value d = component.default) :
    read? (templateItems template) (String.ofList (write d (templateItems template))) = some d := by
  have hs : Separate (templateItems template) :=
    separate_items (not_unknown_mem_templateItems template)
  have hnone : ∀ component, ∀ n ∈ ({} : Parts).get component, n = component.value d := by
    intro component n hn
    cases component <;> cases hn
  obtain ⟨parts, hread, hnano, hget⟩ := readItems?_write hd hs hnone
  rw [read?, String.toList_ofList, hread]
  apply toDateTime?_of_parts hd hnano
  intro component
  rw [hget]
  split
  · rfl
  · rename_i hno
    rw [hdefault component hno]
    cases component <;> rfl

end Calendar

namespace Rule

open Calendar

/-- The check of a date by a template undoes the writing of a date by the pattern of the
template, whatever stands in the template. -/
theorem check_date_written {d : DateTime} (hd : d.IsOrdinary) (template : String)
    (hdefault : ∀ component, .number component ∉ templateItems template →
      component.value d = component.default)
    (source : Source) (field : String) (skips : Bool) :
    Rule.date.check source field template
        ⟨some (.text (String.ofList (write d (templateItems template)))), skips⟩ =
      .ok ⟨some (.date d), skips⟩ := by
  simp only [check, read?_templateItems hd template hdefault]

/-- The leap day of year 0, which a template without a year can name. -/
def leapDay : DateTime := ⟨⟨0, 2, 29, by decide⟩, {}⟩

theorem check_leapDay :
    leapDay.IsOrdinary ∧
    (∀ component, .number component ∉ templateItems "day 5%month5,day" →
      component.value leapDay = component.default) ∧
    String.ofList (write leapDay (templateItems "day 5%month5,day")) = "29 5%025,29" ∧
    Rule.date.check ⟨fun _ => "", fun _ => none⟩ "born" "day 5%month5,day"
        ⟨some (.text "29 5%025,29"), false⟩ = .ok ⟨some (.date leapDay), false⟩ := by
  have hd : leapDay.IsOrdinary :=
    ⟨by decide, by decide, ⟨by decide, by decide, by decide, rfl⟩⟩
  have hdefault : ∀ component, .number component ∉ templateItems "day 5%month5,day" →
      component.value leapDay = component.default := by
    intro component
    cases component <;> decide +kernel
  have hwrite : String.ofList (write leapDay (templateItems "day 5%month5,day")) =
      "29 5%025,29" := by
    decide +kernel
  have hcheck := check_date_written hd "day 5%month5,day" hdefault ⟨fun _ => "", fun _ => none⟩
    "born" false
  rw [hwrite] at hcheck
  exact ⟨hd, hdefault, hwrite, hcheck⟩

end Rule

end Formwork
