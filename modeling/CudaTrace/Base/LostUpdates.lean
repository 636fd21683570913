import Mathlib.Data.List.Infix
import Mathlib.Data.List.TakeWhile

/-!
# A stack mirrored through messages that may be lost

Every opening and closing of a stack is announced together with the new height. A mirror
that gets only some of the messages cuts itself to the height it is told and puts an
announced value on top.
-/

namespace CudaTrace.Base

/-- An open value and whether the message of its opening arrived. -/
structure Announced (α : Type*) where
  value : α
  arrived : Bool

/-- A closed value. `insideLost` tells that some value around it had been opened unseen. -/
structure Departed (α : Type*) where
  value : α
  exitLost : Bool
  insideLost : Bool

/-- The mirror starts with the values up to the first one that was opened unseen, and each
of its values is open or closed in a way that it could not follow. Outermost values first. -/
structure Mirrors {α : Type*} (stack : List (Announced α)) (departed : List (Departed α))
    (mirror : List α) : Prop where
  shared : (stack.takeWhile Announced.arrived).map Announced.value <+: mirror
  accounted : ∀ v ∈ mirror, (∃ e ∈ stack, e.value = v) ∨
    ∃ d ∈ departed, d.value = v ∧ (d.exitLost = true ∨ d.insideLost = true)

def allArrived {α : Type*} (stack : List (Announced α)) : Bool := stack.all Announced.arrived

namespace Mirrors
variable {α : Type*} {stack : List (Announced α)} {departed : List (Departed α)} {mirror : List α}

theorem empty : Mirrors ([] : List (Announced α)) [] [] := ⟨List.nil_prefix, by simp⟩

theorem takeWhile_allArrived (h : allArrived stack = true) :
    stack.takeWhile Announced.arrived = stack := by
  rw [List.takeWhile_eq_self_iff]
  exact List.all_eq_true.mp h

/-- A value behind one that was opened unseen is not in the shared part. -/
theorem takeWhile_append (e : Announced α) (h : allArrived stack = false) :
    (stack ++ [e]).takeWhile Announced.arrived = stack.takeWhile Announced.arrived := by
  induction stack with
  | nil => cases h
  | cons a stack ih =>
    cases ha : a.arrived with
    | false => simp [ha]
    | true =>
      have hrest : allArrived stack = false := by
        simpa [allArrived, ha] using h
      simp [ha, ih hrest]

theorem prefix_take {l : List α} (h : l <+: mirror) {n : ℕ} (hn : l.length ≤ n) :
    l <+: mirror.take n :=
  List.prefix_take_iff.mpr ⟨h, hn⟩

theorem shared_length (stack : List (Announced α)) :
    ((stack.takeWhile Announced.arrived).map Announced.value).length ≤ stack.length := by
  rw [List.length_map]
  exact (List.takeWhile_prefix _).length_le

/-- Without an opening unseen the mirror holds all the values. -/
theorem values_prefix (h : Mirrors stack departed mirror) (hall : allArrived stack = true) :
    stack.map Announced.value <+: mirror := by
  have hshared := h.shared
  rwa [takeWhile_allArrived hall] at hshared

theorem opened_lost (h : Mirrors stack departed mirror) (v : α) :
    Mirrors (stack ++ [⟨v, false⟩]) departed mirror := by
  refine ⟨?_, fun x hx => ?_⟩
  · cases hall : allArrived stack with
    | false =>
      rw [takeWhile_append _ hall]
      exact h.shared
    | true =>
      have hcut : (stack ++ [(⟨v, false⟩ : Announced α)]).takeWhile Announced.arrived = stack := by
        rw [List.takeWhile_append_of_pos (List.all_eq_true.mp hall)]
        simp
      rw [hcut]
      exact h.values_prefix hall
  · rcases h.accounted x hx with ⟨e, he, hv⟩ | hgone
    · exact .inl ⟨e, List.mem_append_left _ he, hv⟩
    · exact .inr hgone

theorem opened (h : Mirrors stack departed mirror) (v : α) :
    Mirrors (stack ++ [⟨v, true⟩]) departed (mirror.take stack.length ++ [v]) := by
  refine ⟨?_, fun x hx => ?_⟩
  · cases hall : allArrived stack with
    | false =>
      rw [takeWhile_append _ hall]
      exact (prefix_take h.shared (shared_length stack)).trans (List.prefix_append _ _)
    | true =>
      have hvalues := h.values_prefix hall
      have hmirror : mirror.take stack.length = stack.map Announced.value := by
        rw [← List.length_map (f := Announced.value)]
        exact (List.prefix_iff_eq_take.mp hvalues).symm
      have hnew : allArrived (stack ++ [⟨v, true⟩]) = true := by
        simpa [allArrived] using hall
      rw [takeWhile_allArrived hnew, hmirror, List.map_append]
      exact List.prefix_rfl
  · rcases List.mem_append.mp hx with hx | hx
    · rcases h.accounted x (List.mem_of_mem_take hx) with ⟨e, he, hv⟩ | hgone
      · exact .inl ⟨e, List.mem_append_left _ he, hv⟩
      · exact .inr hgone
    · obtain rfl := List.mem_singleton.mp hx
      exact .inl ⟨⟨x, true⟩, List.mem_append_right _ List.mem_cons_self, rfl⟩

/-- What stays shared when the innermost value goes. -/
theorem shared_of_append {e : Announced α} (h : Mirrors (stack ++ [e]) departed mirror) :
    (stack.takeWhile Announced.arrived).map Announced.value <+: mirror := by
  refine List.IsPrefix.trans ?_ h.shared
  refine List.IsPrefix.map _ ?_
  cases hall : allArrived stack with
  | false =>
    rw [takeWhile_append e hall]
  | true =>
    rw [List.takeWhile_append_of_pos (List.all_eq_true.mp hall), takeWhile_allArrived hall]
    exact List.prefix_append _ _

theorem closed_lost {e : Announced α} (h : Mirrors (stack ++ [e]) departed mirror)
    (insideLost : Bool) : Mirrors stack (⟨e.value, true, insideLost⟩ :: departed) mirror := by
  refine ⟨h.shared_of_append, fun x hx => ?_⟩
  rcases h.accounted x hx with ⟨e', he, hv⟩ | ⟨d, hd, hv⟩
  · rcases List.mem_append.mp he with he | he
    · exact .inl ⟨e', he, hv⟩
    · obtain rfl := List.mem_singleton.mp he
      exact .inr ⟨_, List.mem_cons_self, hv, .inl rfl⟩
  · exact .inr ⟨d, List.mem_cons_of_mem _ hd, hv⟩

theorem closed {e : Announced α} (h : Mirrors (stack ++ [e]) departed mirror) :
    Mirrors stack (⟨e.value, false, !allArrived stack⟩ :: departed)
      (mirror.take stack.length) := by
  have hshared := prefix_take h.shared_of_append (shared_length stack)
  refine ⟨hshared, fun x hx => ?_⟩
  cases hall : allArrived stack with
  | true =>
    -- the cut leaves exactly the open values
    rw [takeWhile_allArrived hall] at hshared
    have hcut : mirror.take stack.length = stack.map Announced.value := by
      refine (hshared.eq_of_length_le ?_).symm
      rw [List.length_map]
      exact List.length_take_le _ _
    rw [hcut] at hx
    obtain ⟨e', he, hv⟩ := List.mem_map.mp hx
    exact .inl ⟨e', he, hv⟩
  | false =>
    rcases h.accounted x (List.mem_of_mem_take hx) with ⟨e', he, hv⟩ | ⟨d, hd, hv⟩
    · rcases List.mem_append.mp he with he | he
      · exact .inl ⟨e', he, hv⟩
      · obtain rfl := List.mem_singleton.mp he
        exact .inr ⟨_, List.mem_cons_self, hv, .inr rfl⟩
    · exact .inr ⟨d, List.mem_cons_of_mem _ hd, hv⟩

/-- A mirror no higher than a stack of values all seen is the stack. -/
theorem eq_values (h : Mirrors stack departed mirror) (hall : allArrived stack = true)
    (hlen : mirror.length ≤ stack.length) : mirror = stack.map Announced.value := by
  refine ((h.values_prefix hall).eq_of_length_le ?_).symm
  rwa [List.length_map]

end Mirrors

end CudaTrace.Base
