import Formwork.Http.Uri
import Formwork.Proofs.Codec.FormPairs
import Formwork.Proofs.Text.Cut

/-! # Targets that were put together

A path is read as that path, and with a question mark and a query behind it as that path
and that query. So a target can carry pairs that are read back (`Uri.parse?_of_carries`).
-/

namespace Formwork

namespace Uri

variable {path query : String}

/-- A path that can be asked for. -/
structure IsPath (path : String) : Prop where
  rooted : path.toList.head? = some '/'
  plain : path.toList.all isPathChar = true

theorem ne_of_isPathChar {c : Char} (h : isPathChar c = true) : c ≠ '#' ∧ c ≠ '?' := by
  constructor
  · rintro rfl
    exact absurd h (by decide)
  · rintro rfl
    exact absurd h (by decide)

theorem ne_of_isQueryChar {c : Char} (h : isQueryChar c = true) : c ≠ '#' := by
  rintro rfl
  exact absurd h (by decide)

theorem IsPath.forall_ne (h : IsPath path) : ∀ c ∈ path.toList, c ≠ '#' ∧ c ≠ '?' :=
  fun c hc => ne_of_isPathChar (List.all_eq_true.1 h.plain c hc)

theorem IsPath.isEmpty (h : IsPath path) : path.toList.isEmpty = false := by
  cases hp : path.toList with
  | nil =>
      have hr := h.rooted
      rw [hp] at hr
      cases hr
  | cons c cs => rfl

/-- With a slash at its front, a text is read as a path and a query. -/
theorem parse?_of_rooted {s : String} (hr : s.toList.head? = some '/')
    (hs : s.utf8ByteSize ≤ lengthLimit) : parse? s = pathAndQuery? "" s.toList := by
  obtain ⟨cs, hcs⟩ : ∃ cs, s.toList = '/' :: cs := by
    cases h : s.toList with
    | nil => rw [h] at hr; cases hr
    | cons c cs => rw [h] at hr; cases hr; exact ⟨cs, rfl⟩
  have hstar : s.toList ≠ ['*'] := by simp [hcs]
  unfold parse?
  rw [if_neg (Nat.not_lt.2 hs), if_neg hstar]
  simp only [hcs]

theorem IsPath.parse? (h : IsPath path) (hs : path.utf8ByteSize ≤ lengthLimit) :
    Uri.parse? path = some { path } := by
  have hfragment : path.toList.takeWhile (· != '#') = path.toList :=
    List.takeWhile_eq_self_iff.2 fun c hc => bne_iff_ne.2 (h.forall_ne c hc).1
  have hmark : ∀ c ∈ path.toList, (c != '?') = true :=
    fun c hc => bne_iff_ne.2 (h.forall_ne c hc).2
  rw [parse?_of_rooted h.rooted hs]
  simp only [pathAndQuery?, hfragment, List.takeWhile_eq_self_iff.2 hmark,
    List.dropWhile_eq_nil_iff.2 hmark, h.plain, h.isEmpty, String.ofList_toList, Option.getD_none,
    List.all_nil, Bool.and_self, if_true, Bool.false_eq_true, if_false, Option.map_none]

theorem IsPath.parse?_query (h : IsPath path) (hq : query.toList.all isQueryChar = true)
    (hs : (path ++ "?" ++ query).utf8ByteSize ≤ lengthLimit) :
    Uri.parse? (path ++ "?" ++ query) = some { path, query := some query } := by
  have htext : (path ++ "?" ++ query).toList = path.toList ++ '?' :: query.toList := by
    rw [String.toList_append, String.toList_append, List.append_assoc]
    rfl
  have hrooted : (path.toList ++ '?' :: query.toList).head? = some '/' := by
    rw [List.head?_append, h.rooted]
    rfl
  have hfragment : ∀ c ∈ path.toList ++ '?' :: query.toList, (c != '#') = true := by
    intro c hc
    rw [bne_iff_ne]
    rcases List.mem_append.1 hc with hc | hc
    · exact (h.forall_ne c hc).1
    · rcases List.mem_cons.1 hc with rfl | hc
      · decide
      · exact ne_of_isQueryChar (List.all_eq_true.1 hq c hc)
  have hmark : ∀ c ∈ path.toList, (c != '?') = true :=
    fun c hc => bne_iff_ne.2 (h.forall_ne c hc).2
  have hpath : (path.toList ++ '?' :: query.toList).takeWhile (· != '?') = path.toList := by
    rw [List.takeWhile_append_of_pos hmark]
    simp
  have hquery : (path.toList ++ '?' :: query.toList).dropWhile (· != '?') =
      '?' :: query.toList := by
    rw [List.dropWhile_append_of_pos hmark]
    simp
  rw [parse?_of_rooted (by rw [htext, hrooted]) hs, htext]
  simp only [pathAndQuery?, List.takeWhile_eq_self_iff.2 hfragment, hpath, hquery, h.plain, hq,
    h.isEmpty, String.ofList_toList, Option.getD_some, Bool.and_self, if_true, Bool.false_eq_true,
    if_false, Option.map_some]

/-! ## Pairs in a target -/

/-- The target is the path with encoded pairs behind a question mark. Where there are none, the
path alone will do. -/
inductive Carries (path : String) (pairs : List (String × String)) : String → Prop
  | query : Carries path pairs (path ++ "?" ++ FormPairs.writeText pairs)
  | bare (none : pairs = []) : Carries path pairs path

/-- The pairs of the query of a target. -/
def pairs (u : Uri) : List (String × String) :=
  (u.query.map fun q => FormPairs.read (Utf8.encode q)).getD []

theorem parse?_of_carries {path uri : String} {pairs : List (String × String)}
    (hp : IsPath path) (hc : Carries path pairs uri) (hs : uri.utf8ByteSize ≤ lengthLimit) :
    ∃ u, Uri.parse? uri = some u ∧ u.pairs = pairs := by
  cases hc with
  | query =>
      have hall : (FormPairs.writeText pairs).toList.all isQueryChar = true :=
        List.all_eq_true.2 (FormPairs.forall_mem_writeText (by decide +kernel) pairs)
      refine ⟨_, hp.parse?_query hall hs, ?_⟩
      show FormPairs.read (Utf8.encode (FormPairs.writeText pairs)) = pairs
      rw [FormPairs.encode_writeText, FormPairs.read_write]
  | bare none => exact ⟨_, hp.parse? hs, none.symm⟩

end Uri

end Formwork
