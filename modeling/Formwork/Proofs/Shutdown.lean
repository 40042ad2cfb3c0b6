import Formwork.Shutdown
import Mathlib.Data.List.Infix

/-! # No shutdown is lost

What has happened to a shutdown is said by its history alone: when each listener was made, whether
there was a trigger since, whether a handle is left. The state follows the history step by step
(`Shutdown.Follows.next`), so that a waiting listener is done when it is polled exactly if there
was a trigger since it was made or no handle is left, however many messages the one slot of the
channel has lost in the meantime, and the channel counts the listeners that are still there
(`Shutdown.poll_run`).
-/

namespace Formwork

namespace Shutdown

/-- Steps that were taken, the first of them first. -/
abbrev History := List Step

namespace Step

/-- The step makes a listener. -/
def Makes : Step → Prop
  | wait | subscribe => True
  | _ => False

instance : DecidablePred Makes
  | wait | subscribe => inferInstanceAs (Decidable True)
  | trigger | clone | dropHandle | poll _ | drop _ => inferInstanceAs (Decidable False)

/-- The step is taken with a handle. -/
def NeedsHandle : Step → Prop
  | poll _ | drop _ => False
  | _ => True

instance : DecidablePred NeedsHandle
  | poll _ | drop _ => inferInstanceAs (Decidable False)
  | wait | subscribe | trigger | clone | dropHandle => inferInstanceAs (Decidable True)

end Step

namespace History

variable {history : History} {step : Step} {index : Nat}

/-- How many listeners were made. -/
def made (history : History) : Nat := history.countP fun step => decide step.Makes

/-- How many handles are left: there was one at first, each clone is one more. -/
def handlesLeft (history : History) : Nat :=
  1 + history.count .clone - history.count .dropHandle

/-- The step was taken at a moment when this held of the history before it. -/
def Once (history : History) (step : Step) (held : History → Prop) : Prop :=
  ∃ before, before ++ [step] <+: history ∧ held before

instance (held : History → Prop) [DecidablePred held] : Decidable (Once history step held) :=
  decidable_of_iff (∃ before ∈ history.inits, before ++ [step] <+: history ∧ held before) <| by
    simp only [List.mem_inits, Once]
    exact exists_congr fun before =>
      ⟨fun h => h.2, fun h => ⟨(List.prefix_append _ _).trans h.1, h⟩⟩

/-- Each step that needs a handle was taken when there was one. -/
def IsPossible (history : History) : Prop :=
  ∀ step ∈ history, step.NeedsHandle → ¬ Once history step fun before => handlesLeft before = 0

instance : Decidable (IsPossible history) := List.decidableBAll _ history

/-- The listener was made to wait. -/
def IsFuture (history : History) (index : Nat) : Prop :=
  Once history .wait fun before => made before = index

/-- There was a trigger since the listener was made. -/
def IsTriggered (history : History) (index : Nat) : Prop :=
  Once history .trigger fun before => index < made before

/-- A waiting listener has what it waits for. -/
def IsDue (history : History) (index : Nat) : Prop :=
  IsTriggered history index ∨ handlesLeft history = 0

/-- The listener waited, and was polled when it was due. -/
def IsCompleted (history : History) (index : Nat) : Prop :=
  Once history (.poll index) fun before => IsFuture before index ∧ IsDue before index

/-- The listener was dropped. -/
def IsDropped (history : History) (index : Nat) : Prop :=
  Once history (.drop index) fun before => index < made before

/-- The listener was made and has neither completed nor been dropped. -/
def IsOpen (history : History) (index : Nat) : Prop :=
  index < made history ∧ ¬ IsCompleted history index ∧ ¬ IsDropped history index

instance : DecidablePred (IsFuture history) := fun _ => inferInstanceAs (Decidable (Once ..))

instance : DecidablePred (IsTriggered history) := fun _ => inferInstanceAs (Decidable (Once ..))

instance : DecidablePred (IsDue history) := fun _ => inferInstanceAs (Decidable (_ ∨ _))

instance : DecidablePred (IsCompleted history) := fun _ => inferInstanceAs (Decidable (Once ..))

instance : DecidablePred (IsDropped history) := fun _ => inferInstanceAs (Decidable (Once ..))

instance : DecidablePred (IsOpen history) := fun _ => inferInstanceAs (Decidable (_ ∧ _))

/-! ## One step more -/

theorem once_concat {last : Step} {held : History → Prop} :
    Once (history ++ [last]) step held ↔ Once history step held ∨ last = step ∧ held history := by
  constructor
  · rintro ⟨before, hpre, hheld⟩
    rcases List.prefix_concat_iff.1 hpre with he | hpre
    · obtain ⟨rfl, hlast⟩ := List.append_inj' he rfl
      exact .inr ⟨(List.singleton_inj.1 hlast).symm, hheld⟩
    · exact .inl ⟨before, hpre, hheld⟩
  · rintro (⟨before, hpre, hheld⟩ | ⟨rfl, hheld⟩)
    · exact ⟨before, hpre.trans (List.prefix_append _ _), hheld⟩
    · exact ⟨history, List.prefix_rfl, hheld⟩

theorem made_concat (history : History) (step : Step) :
    made (history ++ [step]) = made history + if step.Makes then 1 else 0 := by
  simp [made, List.countP_append, List.countP_singleton]

theorem made_le {before : History} (h : before <+: history) : made before ≤ made history :=
  h.sublist.countP_le

theorem handlesLeft_concat (history : History) (step : Step) :
    handlesLeft (history ++ [step]) =
      1 + (history.count .clone + if step = .clone then 1 else 0) -
        (history.count .dropHandle + if step = .dropHandle then 1 else 0) := by
  simp [handlesLeft, List.count_append, List.count_singleton]

theorem handlesLeft_clone (hleft : handlesLeft history ≠ 0) :
    handlesLeft (history ++ [.clone]) = handlesLeft history + 1 := by
  rw [handlesLeft_concat, if_pos rfl, if_neg nofun]
  unfold handlesLeft at *
  omega

theorem handlesLeft_dropHandle (history : History) :
    handlesLeft (history ++ [.dropHandle]) = handlesLeft history - 1 := by
  rw [handlesLeft_concat, if_neg nofun, if_pos rfl]
  unfold handlesLeft
  omega

theorem handlesLeft_concat_of_ne (hclone : step ≠ .clone) (hdrop : step ≠ .dropHandle) :
    handlesLeft (history ++ [step]) = handlesLeft history := by
  rw [handlesLeft_concat, if_neg hclone, if_neg hdrop]
  rfl

theorem IsPossible.of_concat (h : IsPossible (history ++ [step])) :
    IsPossible history ∧ (step.NeedsHandle → handlesLeft history ≠ 0) := by
  constructor
  · intro earlier hmem hneeds honce
    exact h earlier (List.mem_append_left _ hmem) hneeds (once_concat.2 (.inl honce))
  · intro hneeds hleft
    exact h step (by simp) hneeds (once_concat.2 (.inr ⟨rfl, hleft⟩))

/-- A listener that was already made becomes due by a trigger only. -/
theorem isTriggered_concat (hmade : index < made history) :
    IsTriggered (history ++ [step]) index ↔ IsTriggered history index ∨ step = .trigger := by
  rw [IsTriggered, once_concat, and_iff_left hmade]
  rfl

theorem isFuture_concat (hmade : index < made history) :
    IsFuture (history ++ [step]) index ↔ IsFuture history index := by
  rw [IsFuture, once_concat, or_iff_left fun h => Nat.ne_of_gt hmade h.2]
  rfl

theorem isOpen_concat (hmade : index < made history) :
    IsOpen (history ++ [step]) index ↔ IsOpen history index ∧ step ≠ .drop index ∧
      ¬ (step = .poll index ∧ IsFuture history index ∧ IsDue history index) := by
  have hlater : index < made (history ++ [step]) :=
    Nat.lt_of_lt_of_le hmade (made_le (List.prefix_append _ _))
  have hcompleted : IsCompleted (history ++ [step]) index ↔ IsCompleted history index ∨
      step = .poll index ∧ IsFuture history index ∧ IsDue history index := once_concat
  have hdropped : IsDropped (history ++ [step]) index ↔ IsDropped history index ∨
      step = .drop index := by
    rw [IsDropped, once_concat, and_iff_left hmade]
    rfl
  rw [IsOpen, IsOpen, hcompleted, hdropped]
  tauto

/-! ## A new listener -/

theorem made_lt_of_makes {before : History} (hmakes : step.Makes)
    (h : before ++ [step] <+: history) : made before < made history := by
  have hle := made_le h
  rw [made_concat, if_pos hmakes] at hle
  omega

theorem IsFuture.lt_made (h : IsFuture history index) : index < made history := by
  obtain ⟨before, hpre, rfl⟩ := h
  exact made_lt_of_makes (show Step.Makes .wait from trivial) hpre

/-- Nothing has happened to a listener that is not yet made. -/
theorem not_once_made (history : History) (step : Step) :
    ¬ Once history step fun before => made history < made before := by
  rintro ⟨before, hpre, hlt⟩
  have hle := made_le ((List.prefix_append before [step]).trans hpre)
  omega

theorem not_isTriggered_made (history : History) (step : Step) :
    ¬ IsTriggered (history ++ [step]) (made history) := by
  intro h
  rcases once_concat.1 h with honce | ⟨_, hlt⟩
  · exact not_once_made _ _ honce
  · exact Nat.lt_irrefl _ hlt

theorem isFuture_made_iff : IsFuture (history ++ [step]) (made history) ↔ step = .wait := by
  rw [IsFuture, once_concat, and_iff_left rfl, or_iff_right]
  intro h
  exact Nat.lt_irrefl _ (IsFuture.lt_made h)

theorem isOpen_made (hmakes : step.Makes) : IsOpen (history ++ [step]) (made history) := by
  refine ⟨?_, ?_, ?_⟩
  · rw [made_concat, if_pos hmakes]
    exact Nat.lt_succ_self _
  · intro h
    rcases once_concat.1 h with ⟨before, hpre, hfuture, _⟩ | ⟨_, hfuture, _⟩
    · exact not_once_made _ _ ⟨before, hpre, hfuture.lt_made⟩
    · exact Nat.lt_irrefl _ hfuture.lt_made
  · intro h
    rcases once_concat.1 h with honce | ⟨_, hlt⟩
    · exact not_once_made _ _ honce
    · exact Nat.lt_irrefl _ hlt

end History

open History

variable {s : Shutdown} {history : History} {step : Step} {index : Nat}

/-! ## The state follows the history -/

/-- What a listener is, where so many messages were sent, by the history. -/
def Fits (history : History) (sent index : Nat) : Listener → Prop
  | .waiting place => IsOpen history index ∧ IsFuture history index ∧ place ≤ sent ∧
      (place < sent ↔ IsTriggered history index)
  | .subscribed _ => IsOpen history index ∧ ¬ IsFuture history index
  | .gone => ¬ IsOpen history index

/-- The state is what the history says. -/
structure Follows (s : Shutdown) (history : History) : Prop where
  handles : s.handles = handlesLeft history
  made : s.listeners.length = made history
  receivers : s.channel.receivers = s.listeners.countP (· != .gone)
  fits : ∀ index listener, s.listeners[index]? = some listener →
    Fits history s.channel.sent index listener

theorem Follows.lt_made (f : s.Follows history) {listener : Listener}
    (h : s.listeners[index]? = some listener) : index < History.made history := by
  rw [← f.made]
  exact (List.getElem?_eq_some_iff.1 h).1

/-- A step that does not concern a listener leaves it as it is. -/
theorem Fits.concat {sent : Nat} {listener : Listener} (fits : Fits history sent index listener)
    (hmade : index < History.made history) (htrigger : step ≠ .trigger)
    (hdrop : step ≠ .drop index)
    (hpoll : ¬ (step = .poll index ∧ IsFuture history index ∧ IsDue history index)) :
    Fits (history ++ [step]) sent index listener := by
  have hopen : IsOpen (history ++ [step]) index ↔ IsOpen history index := by
    rw [isOpen_concat hmade]
    exact and_iff_left ⟨hdrop, hpoll⟩
  have htriggered : IsTriggered (history ++ [step]) index ↔ IsTriggered history index := by
    rw [isTriggered_concat hmade]
    exact or_iff_left htrigger
  cases listener <;> simpa only [Fits, hopen, isFuture_concat hmade, htriggered] using fits

/-! ## One step of the state -/

namespace Follows

/-- A listener is made. -/
theorem listen (f : s.Follows history) (hleft : handlesLeft history ≠ 0) (hmakes : step.Makes)
    {listener : Nat → Listener} (hthere : listener s.channel.sent ≠ .gone)
    (hnew : Fits (history ++ [step]) s.channel.sent (History.made history)
      (listener s.channel.sent)) :
    (s.listen listener).Follows (history ++ [step]) := by
  have hlisten : s.listen listener =
      ⟨s.channel.subscribe.2, s.listeners ++ [listener s.channel.sent]⟩ := by
    rw [Shutdown.listen, if_neg (by rwa [f.handles])]
    rfl
  rw [hlisten]
  refine ⟨?_, ?_, ?_, ?_⟩
  · rw [handlesLeft_concat_of_ne (by rintro rfl; exact hmakes) (by rintro rfl; exact hmakes)]
    exact f.handles
  · rw [made_concat, if_pos hmakes, ← f.made, List.length_append, List.length_singleton]
  · rw [List.countP_append, List.countP_singleton, if_pos (by simpa using hthere), ← f.receivers]
    rfl
  · intro index found hfound
    rw [List.getElem?_append] at hfound
    split at hfound
    · have hmade := f.lt_made hfound
      exact (f.fits index found hfound).concat hmade (by rintro rfl; exact hmakes)
        (by rintro rfl; exact hmakes) (by rintro ⟨rfl, _⟩; exact hmakes)
    · rename_i hlast
      rw [List.getElem?_singleton] at hfound
      split at hfound
      · rename_i hzero
        cases hfound
        obtain rfl : index = History.made history := by
          rw [← f.made]
          omega
        exact hnew
      · cases hfound

theorem forall_gone (f : s.Follows history) (h : s.channel.receivers = 0) {listener : Listener}
    (hmem : listener ∈ s.listeners) : listener = .gone := by
  rw [f.receivers, List.countP_eq_zero] at h
  simpa using h listener hmem

/-- A trigger reaches each listener that is there. -/
theorem trigger (f : s.Follows history) (hleft : handlesLeft history ≠ 0) :
    s.trigger.Follows (history ++ [.trigger]) := by
  have hhandles : handlesLeft (history ++ [.trigger]) = handlesLeft history :=
    handlesLeft_concat_of_ne nofun nofun
  have hmade : History.made (history ++ [.trigger]) = History.made history := made_concat _ _
  rw [Shutdown.trigger, if_neg (by rwa [f.handles]), Broadcast.send?]
  split
  · rename_i hnone
    refine ⟨hhandles ▸ f.handles, hmade ▸ f.made, f.receivers, ?_⟩
    intro index listener hfound
    obtain rfl := f.forall_gone hnone (List.mem_of_getElem? hfound)
    exact (isOpen_concat (f.lt_made hfound)).not.2 fun h => f.fits _ _ hfound h.1
  · refine ⟨hhandles ▸ f.handles, hmade ▸ f.made, f.receivers, ?_⟩
    intro index listener hfound
    have hfits := f.fits index listener hfound
    have hlt := f.lt_made hfound
    have hopen : IsOpen (history ++ [.trigger]) index ↔ IsOpen history index := by
      rw [isOpen_concat hlt]
      exact and_iff_left ⟨nofun, nofun⟩
    have htriggered : IsTriggered (history ++ [.trigger]) index :=
      (isTriggered_concat hlt).2 (.inr rfl)
    cases listener with
    | waiting place =>
        obtain ⟨hstill, hfuture, hplace, _⟩ := hfits
        exact ⟨hopen.2 hstill, (isFuture_concat hlt).2 hfuture, Nat.le_succ_of_le hplace,
          iff_of_true (Nat.lt_succ_of_le hplace) htriggered⟩
    | subscribed place =>
        exact ⟨hopen.2 hfits.1, (isFuture_concat hlt).not.2 hfits.2⟩
    | gone => exact hopen.not.2 hfits

/-- A step about handles does not concern any listener. -/
theorem handle (f : s.Follows history) {channel : Broadcast Unit}
    (hstep : step = .clone ∨ step = .dropHandle)
    (hsenders : channel.senders = handlesLeft (history ++ [step]))
    (hreceivers : channel.receivers = s.channel.receivers) (hsent : channel.sent = s.channel.sent) :
    Follows { s with channel } (history ++ [step]) := by
  refine ⟨hsenders, ?_, hreceivers.trans f.receivers, ?_⟩
  · rw [made_concat, if_neg (by rcases hstep with rfl | rfl <;> exact id), f.made]
    rfl
  · intro index listener hfound
    rw [hsent]
    apply (f.fits index listener hfound).concat (f.lt_made hfound) <;>
      rcases hstep with rfl | rfl <;> nofun

theorem clone (f : s.Follows history) (hleft : handlesLeft history ≠ 0) :
    s.clone.Follows (history ++ [.clone]) := by
  rw [Shutdown.clone, if_neg (by rwa [f.handles])]
  refine f.handle (.inl rfl) ?_ rfl rfl
  rw [handlesLeft_clone hleft, ← f.handles]
  rfl

theorem dropHandle (f : s.Follows history) : s.dropHandle.Follows (history ++ [.dropHandle]) := by
  refine f.handle (.inr rfl) ?_ rfl rfl
  rw [handlesLeft_dropHandle, ← f.handles]
  rfl

/-- A step about one listener does not concern the others. -/
theorem touch (f : s.Follows history) (hstep : step = .poll index ∨ step = .drop index)
    {later : Shutdown} (hhandles : later.handles = s.handles)
    (hsent : later.channel.sent = s.channel.sent)
    (hlength : later.listeners.length = s.listeners.length)
    (hreceivers : later.channel.receivers = later.listeners.countP (· != .gone))
    (hothers : ∀ other, other ≠ index → later.listeners[other]? = s.listeners[other]?)
    (hfits : ∀ listener, later.listeners[index]? = some listener →
      Fits (history ++ [step]) s.channel.sent index listener) :
    later.Follows (history ++ [step]) := by
  refine ⟨?_, ?_, hreceivers, ?_⟩
  · rw [hhandles, f.handles,
      handlesLeft_concat_of_ne (by rcases hstep with rfl | rfl <;> nofun)
        (by rcases hstep with rfl | rfl <;> nofun)]
  · rw [made_concat, if_neg (by rcases hstep with rfl | rfl <;> exact id), hlength, f.made]
    rfl
  · intro other listener hfound
    rw [hsent]
    by_cases hother : other = index
    · subst hother
      exact hfits listener hfound
    · rw [hothers other hother] at hfound
      have hne : ¬ index = other := fun h => hother h.symm
      apply (f.fits other listener hfound).concat (f.lt_made hfound) <;>
        rcases hstep with rfl | rfl <;> simp [hne]

/-- Nothing changes. -/
theorem stay (f : s.Follows history) (hstep : step = .poll index ∨ step = .drop index)
    (hfits : ∀ listener, s.listeners[index]? = some listener →
      Fits (history ++ [step]) s.channel.sent index listener) : s.Follows (history ++ [step]) :=
  f.touch hstep rfl rfl rfl f.receivers (fun _ _ => rfl) hfits

/-- A listener that is gone stays so, and one that is not made is not there. -/
theorem stay_of_gone (f : s.Follows history) (hstep : step = .poll index ∨ step = .drop index)
    (hwaiting : ∀ place, s.listeners[index]? ≠ some (.waiting place))
    (hsubscribed : ∀ place, s.listeners[index]? ≠ some (.subscribed place)) :
    s.Follows (history ++ [step]) := by
  refine f.stay hstep fun listener hfound => ?_
  have hfits := f.fits index listener hfound
  cases listener with
  | waiting place => exact absurd hfound (hwaiting place)
  | subscribed place => exact absurd hfound (hsubscribed place)
  | gone => exact (isOpen_concat (f.lt_made hfound)).not.2 fun h => hfits h.1

/-- A listener goes, by a step after which it is not open. -/
theorem leave (f : s.Follows history) (hstep : step = .poll index ∨ step = .drop index)
    {listener : Listener} (hfound : s.listeners[index]? = some listener)
    (hthere : listener ≠ .gone) (hclosed : ¬ IsOpen (history ++ [step]) index) :
    Follows ⟨s.channel.dropReceiver, s.listeners.set index .gone⟩ (history ++ [step]) := by
  obtain ⟨hlt, hget⟩ := List.getElem?_eq_some_iff.1 hfound
  refine f.touch hstep rfl rfl List.length_set ?_ ?_ ?_
  · have hcount : (s.listeners[index] != .gone) = true := by simpa [hget] using hthere
    rw [List.countP_set hlt, if_pos hcount, ← f.receivers]
    rfl
  · intro other hother
    exact List.getElem?_set_ne fun h => hother h.symm
  · intro listener hlater
    rw [List.getElem?_set_self hlt] at hlater
    cases hlater
    exact hclosed

theorem drop (f : s.Follows history) (index : Nat) :
    (s.drop index).Follows (history ++ [.drop index]) := by
  rw [Shutdown.drop]
  split
  · rename_i hfound
    exact f.leave (.inr rfl) hfound nofun fun h => ((isOpen_concat (f.lt_made hfound)).1 h).2.1 rfl
  · rename_i hfound
    exact f.leave (.inr rfl) hfound nofun fun h => ((isOpen_concat (f.lt_made hfound)).1 h).2.1 rfl
  · rename_i hwaiting hsubscribed
    exact f.stay_of_gone (.inr rfl) hwaiting hsubscribed

/-- A waiting listener gets nothing exactly if it is not due. -/
theorem receive_eq_pending_iff (f : s.Follows history) {place : Nat}
    (hfound : s.listeners[index]? = some (.waiting place)) :
    (s.channel.receive place).1 = .pending ↔ ¬ IsDue history index := by
  obtain ⟨_, _, _, htriggered⟩ := f.fits index _ hfound
  rw [Broadcast.receive_eq_pending_iff, IsDue, not_or, ← htriggered, Nat.not_lt, ← f.handles]
  rfl

theorem poll (f : s.Follows history) (index : Nat) :
    (s.poll index).2.Follows (history ++ [.poll index]) := by
  rw [Shutdown.poll]
  split
  · rename_i place hfound
    have hlt := f.lt_made hfound
    have hfits := f.fits index _ hfound
    split
    · rename_i hpending
      refine f.stay (.inl rfl) fun listener hsame => ?_
      obtain rfl : listener = .waiting place := Option.some.inj (hsame.symm.trans hfound)
      exact hfits.concat hlt nofun nofun fun h => (f.receive_eq_pending_iff hfound).1 hpending h.2.2
    · rename_i hpending
      have hdue : IsDue history index := by
        by_contra hnot
        exact hpending ((f.receive_eq_pending_iff hfound).2 hnot)
      have hdrop : s.drop index = ⟨s.channel.dropReceiver, s.listeners.set index .gone⟩ := by
        rw [Shutdown.drop, hfound]
      rw [hdrop]
      exact f.leave (.inl rfl) hfound nofun fun h =>
        ((isOpen_concat hlt).1 h).2.2 ⟨rfl, hfits.2.1, hdue⟩
  · rename_i place hfound
    have hlt := f.lt_made hfound
    have hsubscribed : IsOpen history index ∧ ¬ IsFuture history index := f.fits index _ hfound
    -- a subscriber takes a message and stays
    have hfits : ∀ next, Fits (history ++ [.poll index]) s.channel.sent index (.subscribed next) :=
      fun next => Fits.concat (show Fits history _ _ (.subscribed next) from hsubscribed)
        hlt nofun nofun fun h => hsubscribed.2 h.2.1
    split
    · refine f.stay (.inl rfl) fun listener hsame => ?_
      obtain rfl : listener = .subscribed place := Option.some.inj (hsame.symm.trans hfound)
      exact hfits place
    · obtain ⟨hindex, hget⟩ := List.getElem?_eq_some_iff.1 hfound
      refine f.touch (.inl rfl) rfl rfl List.length_set ?_ ?_ ?_
      · have hthere : (s.listeners[index] != .gone) = true := by simp [hget]
        have hpos : 0 < s.listeners.countP (· != .gone) :=
          List.countP_pos_iff.2 ⟨_, List.getElem_mem hindex, hthere⟩
        rw [List.countP_set hindex, if_pos hthere, if_pos (by simp), Nat.sub_add_cancel hpos]
        exact f.receivers
      · intro other hother
        exact List.getElem?_set_ne fun h => hother h.symm
      · intro listener hlater
        rw [List.getElem?_set_self hindex] at hlater
        cases hlater
        exact hfits _
  · rename_i hwaiting hsubscribed
    exact f.stay_of_gone (.inl rfl) hwaiting hsubscribed

/-- What one step keeps. -/
theorem next (f : s.Follows history)
    (hleft : step.NeedsHandle → handlesLeft history ≠ 0) :
    (s.step step).Follows (history ++ [step]) := by
  cases step with
  | wait =>
      refine f.listen (hleft trivial) (show Step.Makes .wait from trivial) nofun ?_
      exact ⟨isOpen_made trivial, isFuture_made_iff.2 rfl, Nat.le_refl _,
        iff_of_false (Nat.lt_irrefl _) (not_isTriggered_made _ _)⟩
  | subscribe =>
      refine f.listen (hleft trivial) (show Step.Makes .subscribe from trivial) nofun ?_
      exact ⟨isOpen_made trivial, isFuture_made_iff.not.2 nofun⟩
  | trigger => exact f.trigger (hleft trivial)
  | clone => exact f.clone (hleft trivial)
  | dropHandle => exact f.dropHandle
  | poll index => exact f.poll index
  | drop index => exact f.drop index

/-- A new shutdown. -/
theorem start : Follows {} [] := ⟨rfl, rfl, rfl, nofun⟩

/-- What a whole run keeps. -/
theorem of_run (possible : history.IsPossible) : (run history).Follows history := by
  induction history using List.reverseRecOn with
  | nil => exact start
  | append_singleton history step ih =>
      obtain ⟨hpossible, hleft⟩ := possible.of_concat
      rw [Shutdown.run, List.foldl_append]
      exact (ih hpossible).next hleft

/-- The channel counts the listeners that are open. -/
theorem receivers_eq (f : s.Follows history) : s.channel.receivers =
    (List.range (History.made history)).countP fun index => decide (IsOpen history index) := by
  have hmap : s.listeners.map (· != .gone) =
      (List.range (History.made history)).map fun index => decide (IsOpen history index) := by
    apply List.ext_getElem (by rw [List.length_map, List.length_map, List.length_range, f.made])
    intro index hlt _
    rw [List.length_map] at hlt
    have hfits := f.fits index _ (List.getElem?_eq_getElem hlt)
    rw [List.getElem_map, List.getElem_map, List.getElem_range]
    generalize s.listeners[index] = listener at hfits
    cases listener with
    | waiting place => simp [hfits.1]
    | subscribed place => simp [hfits.1]
    | gone =>
        have hgone : ¬ IsOpen history index := hfits
        simp [hgone]
  have hcount := congrArg (List.countP id) hmap
  rw [List.countP_map, List.countP_map] at hcount
  exact f.receivers.trans hcount

end Follows

/-- After every possible history, a waiting listener that has neither completed nor been dropped
is done when it is polled exactly if there was a trigger since it was made or no handle is left,
and the channel counts exactly the listeners that have neither completed nor been dropped. -/
theorem poll_run (possible : history.IsPossible) :
    (∀ index, IsFuture history index → IsOpen history index →
        ((run history).poll index).1 = some (decide (IsDue history index))) ∧
      (run history).receiverCount =
        (List.range (History.made history)).countP fun index => decide (IsOpen history index) := by
  have f := Follows.of_run possible
  refine ⟨fun index hfuture hopen => ?_, f.receivers_eq⟩
  have hlt : index < (run history).listeners.length := by
    rw [f.made]
    exact hopen.1
  have hfound := List.getElem?_eq_getElem hlt
  have hfits := f.fits index _ hfound
  cases hl : (run history).listeners[index] with
  | waiting place =>
      rw [hl] at hfound
      have hpending := f.receive_eq_pending_iff hfound
      rw [Shutdown.poll, hfound]
      dsimp only
      split
      · rename_i hnothing
        rw [decide_eq_false (hpending.1 hnothing)]
      · rename_i hsomething
        have hdue : IsDue history index := by
          by_contra hnot
          exact hsomething (hpending.2 hnot)
        rw [decide_eq_true hdue]
  | subscribed place =>
      rw [hl] at hfits
      exact absurd hfuture hfits.2
  | gone =>
      rw [hl] at hfits
      exact absurd hopen hfits

/-- A listener that was late for a trigger is done all the same, and one that was made after the
triggers is not. -/
theorem missed_trigger_wakes :
    let history : History :=
      [.wait, .trigger, .trigger, .wait, .subscribe, .wait, .drop 3, .poll 1]
    history.IsPossible ∧ ((run history).poll 0).1 = some true ∧
      ((run history).poll 1).1 = some false ∧ (run history).receiverCount = 3 := by
  intro history
  have possible : history.IsPossible := by decide +kernel
  obtain ⟨hpoll, hcount⟩ := poll_run possible
  have hfirst : IsFuture history 0 ∧ IsOpen history 0 ∧ IsDue history 0 := by decide +kernel
  have hsecond : IsFuture history 1 ∧ IsOpen history 1 ∧ ¬ IsDue history 1 := by decide +kernel
  refine ⟨possible, ?_, ?_, ?_⟩
  · rw [hpoll 0 hfirst.1 hfirst.2.1, decide_eq_true hfirst.2.2]
  · rw [hpoll 1 hsecond.1 hsecond.2.1, decide_eq_false hsecond.2.2]
  · rw [hcount]
    decide +kernel

/-- The first of two triggers is kept no longer when a listener from before them is polled. -/
example : ((run [.wait, .trigger, .trigger]).channel.receive 0).1 = .lagged 1 := by decide

end Shutdown

end Formwork
