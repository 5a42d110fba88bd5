/-
Timelines.

Some events are scheduled before a simulation starts, and others come up while it runs.  Events happen
in the order of their times.  Those of one time happen in the order in which they have been inserted
into the queue, so that the scheduled ones come first.

A timeline that is cut at an event shows which events have happened before it: at an event that comes
up at the time `t`, the events scheduled for `t` or earlier (`scheduled_before`); at one that is
scheduled for `t`, the events that have come up earlier than `t` (`arisen_before`) and the scheduled ones in front of
it (`scheduled_before_scheduled`).
-/
import Mathlib.Data.List.Sort
import Mathlib.Data.Prod.Lex
import Mathlib.Data.Sum.Basic
import Mathlib.Order.Basic
import Mathlib.Tactic.Common

namespace ManetOlsr.Lib

variable {τ α β : Type*} [LinearOrder τ]

/-! ### The queue -/

/-- The list in the order of its times; what has been inserted first stays first. -/
def inTimeOrder (xs : List (τ × α)) : List (τ × α) := xs.insertionSort fun x y => x.1 ≤ y.1

/-- The key of an event in the queue: its time, and whether it comes up during the simulation. -/
def queueKey (x : τ × (α ⊕ β)) : τ ×ₗ Bool := toLex (x.1, x.2.isRight)

/-- The events that are scheduled and those that come up, in the order in which they happen. -/
def timeline (scheduled : List (τ × α)) (arising : List (τ × β)) : List (τ × (α ⊕ β)) :=
  List.merge (scheduled.map (Prod.map id Sum.inl)) (arising.map (Prod.map id Sum.inr))
    fun x y => decide (queueKey x ≤ queueKey y)

/-- The scheduled events of a timeline. -/
def scheduledOf (l : List (τ × (α ⊕ β))) : List (τ × α) :=
  l.filterMap fun x => x.2.getLeft?.map (Prod.mk x.1)

/-- The events of a timeline that come up. -/
def arisingOf (l : List (τ × (α ⊕ β))) : List (τ × β) :=
  l.filterMap fun x => x.2.getRight?.map (Prod.mk x.1)

omit [LinearOrder τ]

@[simp] lemma arisingOf_nil : arisingOf ([] : List (τ × (α ⊕ β))) = [] := rfl

@[simp] lemma scheduledOf_append (l l' : List (τ × (α ⊕ β))) :
    scheduledOf (l ++ l') = scheduledOf l ++ scheduledOf l' :=
  List.filterMap_append

@[simp] lemma arisingOf_append (l l' : List (τ × (α ⊕ β))) :
    arisingOf (l ++ l') = arisingOf l ++ arisingOf l' :=
  List.filterMap_append

@[simp] lemma scheduledOf_cons_inl (t : τ) (a : α) (l : List (τ × (α ⊕ β))) :
    scheduledOf ((t, .inl a) :: l) = (t, a) :: scheduledOf l := rfl

@[simp] lemma scheduledOf_cons_inr (t : τ) (b : β) (l : List (τ × (α ⊕ β))) :
    scheduledOf ((t, .inr b) :: l) = scheduledOf l := rfl

@[simp] lemma arisingOf_cons_inl (t : τ) (a : α) (l : List (τ × (α ⊕ β))) :
    arisingOf ((t, .inl a) :: l) = arisingOf l := rfl

lemma mem_scheduledOf {l : List (τ × (α ⊕ β))} {t : τ} {a : α} :
    (t, a) ∈ scheduledOf l ↔ (t, Sum.inl a) ∈ l := by
  simp only [scheduledOf, List.mem_filterMap, Option.map_eq_some_iff, Prod.mk.injEq]
  constructor
  · rintro ⟨⟨t', x⟩, hx, a', ha, rfl, rfl⟩
    obtain rfl : x = .inl a' := Sum.getLeft?_eq_some_iff.mp ha
    exact hx
  · intro h
    exact ⟨_, h, a, rfl, rfl, rfl⟩

lemma mem_arisingOf {l : List (τ × (α ⊕ β))} {t : τ} {b : β} :
    (t, b) ∈ arisingOf l ↔ (t, Sum.inr b) ∈ l := by
  simp only [arisingOf, List.mem_filterMap, Option.map_eq_some_iff, Prod.mk.injEq]
  constructor
  · rintro ⟨⟨t', x⟩, hx, b', hb, rfl, rfl⟩
    obtain rfl : x = .inr b' := Sum.getRight?_eq_some_iff.mp hb
    exact hx
  · intro h
    exact ⟨_, h, b, rfl, rfl, rfl⟩

/-- A list is cut where its scheduled events are. -/
lemma exists_of_scheduledOf_eq {l : List (τ × (α ⊕ β))} {xs ys : List (τ × α)} {t : τ} {a : α}
    (h : scheduledOf l = xs ++ (t, a) :: ys) :
    ∃ l₁ l₂, l = l₁ ++ (t, .inl a) :: l₂ ∧ scheduledOf l₁ = xs ∧ scheduledOf l₂ = ys := by
  obtain ⟨l₁, l₂, rfl, h₁, h₂⟩ := List.filterMap_eq_append_iff.mp h
  obtain ⟨l₃, x, l₄, rfl, hnone, hx, h₄⟩ := List.filterMap_eq_cons_iff.mp h₂
  obtain ⟨u, x⟩ := x
  simp only [Option.map_eq_some_iff, Prod.mk.injEq] at hx
  obtain ⟨a', ha, rfl, rfl⟩ := hx
  obtain rfl : x = .inl a' := Sum.getLeft?_eq_some_iff.mp ha
  have h₃ : scheduledOf l₃ = [] := List.filterMap_eq_nil_iff.mpr hnone
  exact ⟨l₁ ++ l₃, l₄, by simp, by rw [scheduledOf_append, h₃, List.append_nil]; exact h₁, h₄⟩

/-- Merging leaves the order of the elements of one list that the other does not have. -/
lemma filterMap_merge_left {γ δ : Type*} {f : γ → Option δ} {le : γ → γ → Bool} (xs ys : List γ)
    (hys : ys.filterMap f = []) : (xs.merge ys le).filterMap f = xs.filterMap f := by
  induction xs generalizing ys with
  | nil => simpa [List.merge] using hys
  | cons x xs ih =>
    induction ys with
    | nil => simp
    | cons y ys ihy =>
      rw [List.cons_merge_cons]
      split
      · rw [List.filterMap_cons, List.filterMap_cons, ih _ hys]
      · rw [List.filterMap_cons] at hys ⊢
        cases hy : f y with
        | none =>
          rw [hy] at hys
          exact ihy hys
        | some d =>
          rw [hy] at hys
          cases hys

lemma filterMap_merge_right {γ δ : Type*} {f : γ → Option δ} {le : γ → γ → Bool} (xs ys : List γ)
    (hxs : xs.filterMap f = []) : (xs.merge ys le).filterMap f = ys.filterMap f := by
  induction xs generalizing ys with
  | nil => simp
  | cons x xs ih =>
    rw [List.filterMap_cons] at hxs
    cases hx : f x with
    | some d =>
      rw [hx] at hxs
      cases hxs
    | none =>
      rw [hx] at hxs
      induction ys with
      | nil => simp [hx, hxs]
      | cons y ys ihy =>
        rw [List.cons_merge_cons]
        split
        · rw [List.filterMap_cons, hx]
          exact ih _ hxs
        · rw [List.filterMap_cons, List.filterMap_cons, ihy]

variable [LinearOrder τ]

lemma pairwise_inTimeOrder (xs : List (τ × α)) :
    (inTimeOrder xs).Pairwise fun x y => x.1 ≤ y.1 :=
  List.pairwise_insertionSort (fun x y : τ × α => x.1 ≤ y.1) xs

/-- What comes up before `b` comes up before `a`, or from `a` on. -/
lemma filter_lt_append {xs : List (τ × α)} (hxs : xs.Pairwise fun x y => x.1 ≤ y.1) {a b : τ}
    (hab : a ≤ b) :
    (xs.filter fun x => x.1 < a) ++ (xs.filter fun x => a ≤ x.1 ∧ x.1 < b) =
      xs.filter fun x => x.1 < b := by
  induction xs with
  | nil => rfl
  | cons x xs ih =>
    rw [List.pairwise_cons] at hxs
    rcases lt_or_ge x.1 a with hx | hx
    · have hb : x.1 < b := hx.trans_le hab
      simpa [hx, hb, not_le.mpr hx] using ih hxs.2
    · -- From here on nothing comes up before `a`.
      have hnone : (xs.filter fun y => decide (y.1 < a)) = [] := by
        rw [List.filter_eq_nil_iff]
        intro y hy
        simpa using hx.trans (hxs.1 y hy)
      have ih := ih hxs.2
      rw [hnone, List.nil_append] at ih
      rw [List.filter_cons_of_neg (by simpa using hx), hnone, List.nil_append, List.filter_cons,
        List.filter_cons, ih]
      simp [hx]

lemma le_of_queueKey_le {x y : τ × (α ⊕ β)} (h : queueKey x ≤ queueKey y) : x.1 ≤ y.1 := by
  rcases Prod.Lex.toLex_le_toLex.mp h with hlt | ⟨heq, -⟩
  · exact hlt.le
  · exact heq.le

/-- An event that comes up happens before a scheduled one only if it is earlier. -/
lemma lt_of_queueKey_le {u t : τ} {a : α} {b : β}
    (h : queueKey (u, (Sum.inr b : α ⊕ β)) ≤ queueKey (t, (Sum.inl a : α ⊕ β))) : u < t := by
  rcases Prod.Lex.toLex_le_toLex.mp h with hlt | ⟨-, hbool⟩
  · exact hlt
  · exact absurd hbool (by simp)

/-! ### Cutting a timeline -/

section Cut

variable {scheduled : List (τ × α)} {arising : List (τ × β)}

variable (scheduled arising) in
lemma scheduledOf_timeline : scheduledOf (timeline scheduled arising) = scheduled := by
  rw [timeline, scheduledOf, filterMap_merge_left]
  · simp [List.filterMap_map, Function.comp_def]
  · simp [List.filterMap_eq_nil_iff]

variable (scheduled arising) in
lemma arisingOf_timeline : arisingOf (timeline scheduled arising) = arising := by
  rw [timeline, arisingOf, filterMap_merge_right]
  · simp [List.filterMap_map, Function.comp_def]
  · simp [List.filterMap_eq_nil_iff]

/-- What has been scheduled and has happened when a scheduled event happens. -/
lemma scheduled_before_scheduled [DecidableEq α] (hnodup : scheduled.Nodup)
    {before after : List (τ × (α ⊕ β))} {t : τ} {a : α}
    (h : timeline scheduled arising = before ++ (t, .inl a) :: after) :
    scheduledOf before = scheduled.takeWhile fun x => x ≠ (t, a) := by
  have hall := scheduledOf_timeline scheduled arising
  rw [h, scheduledOf_append, scheduledOf_cons_inl] at hall
  rw [← hall] at hnodup ⊢
  have hnot : ∀ x ∈ scheduledOf before, x ≠ (t, a) := by
    rintro x hx rfl
    exact (List.nodup_append.mp hnodup).2.2 _ hx _ List.mem_cons_self rfl
  rw [List.takeWhile_append_of_pos (by simpa using hnot), List.takeWhile_cons_of_neg (by simp),
    List.append_nil]

variable (hscheduled : scheduled.Pairwise fun x y => x.1 ≤ y.1)
  (harising : arising.Pairwise fun x y => x.1 ≤ y.1)
include hscheduled harising

lemma pairwise_timeline :
    (timeline scheduled arising).Pairwise fun x y => queueKey x ≤ queueKey y := by
  have hkeys : ∀ {x y : τ × (α ⊕ β)}, x.1 ≤ y.1 → x.2.isRight = y.2.isRight →
      decide (queueKey x ≤ queueKey y) = true := by
    intro x y hle hsame
    refine decide_eq_true (Prod.Lex.toLex_le_toLex.mpr ?_)
    exact hle.lt_or_eq.imp_right fun heq => ⟨heq, hsame.le⟩
  have htrans : ∀ x y z : τ × (α ⊕ β), decide (queueKey x ≤ queueKey y) = true →
      decide (queueKey y ≤ queueKey z) = true → decide (queueKey x ≤ queueKey z) = true := by
    intro x y z hxy hyz
    exact decide_eq_true ((of_decide_eq_true hxy).trans (of_decide_eq_true hyz))
  have htotal : ∀ x y : τ × (α ⊕ β),
      (decide (queueKey x ≤ queueKey y) || decide (queueKey y ≤ queueKey x)) = true := by
    intro x y
    simpa using le_total (queueKey x) (queueKey y)
  have hleft : (scheduled.map (Prod.map id Sum.inl)).Pairwise fun x y : τ × (α ⊕ β) =>
      decide (queueKey x ≤ queueKey y) = true :=
    List.pairwise_map.mpr (hscheduled.imp fun {x y} hle =>
      hkeys (x := (x.1, .inl x.2)) (y := (y.1, .inl y.2)) hle rfl)
  have hright : (arising.map (Prod.map id Sum.inr)).Pairwise fun x y : τ × (α ⊕ β) =>
      decide (queueKey x ≤ queueKey y) = true :=
    List.pairwise_map.mpr (harising.imp fun {x y} hle =>
      hkeys (x := (x.1, .inr x.2)) (y := (y.1, .inr y.2)) hle rfl)
  exact (List.pairwise_merge htrans htotal _ _ hleft hright).imp fun h => of_decide_eq_true h

variable {before after : List (τ × (α ⊕ β))} {t : τ}

/-- What has been scheduled and has happened when an event comes up. -/
lemma scheduled_before {b : β} (h : timeline scheduled arising = before ++ (t, .inr b) :: after) :
    scheduledOf before = scheduled.filter fun x => x.1 ≤ t := by
  have hsorted := pairwise_timeline hscheduled harising
  have hall := scheduledOf_timeline scheduled arising
  rw [h, List.pairwise_append, List.pairwise_cons] at hsorted
  obtain ⟨-, ⟨hafter, -⟩, hbefore⟩ := hsorted
  rw [h, scheduledOf_append, scheduledOf_cons_inr] at hall
  have hle : ∀ x ∈ scheduledOf before, x.1 ≤ t := by
    rintro ⟨u, a⟩ hx
    exact le_of_queueKey_le (hbefore _ (mem_scheduledOf.mp hx) _ List.mem_cons_self)
  have hgt : ∀ x ∈ scheduledOf after, ¬ x.1 ≤ t := by
    rintro ⟨u, a⟩ hx hu
    exact absurd hu (not_le.mpr (lt_of_queueKey_le (hafter _ (mem_scheduledOf.mp hx))))
  rw [← hall, List.filter_append, List.filter_eq_self.mpr (by simpa using hle),
    List.filter_eq_nil_iff.mpr (by simpa using hgt), List.append_nil]

/-- What has come up when a scheduled event happens. -/
lemma arisen_before {a : α} (h : timeline scheduled arising = before ++ (t, .inl a) :: after) :
    arisingOf before = arising.filter fun x => x.1 < t := by
  have hsorted := pairwise_timeline hscheduled harising
  have hall := arisingOf_timeline scheduled arising
  rw [h, List.pairwise_append, List.pairwise_cons] at hsorted
  obtain ⟨-, ⟨hafter, -⟩, hbefore⟩ := hsorted
  rw [h, arisingOf_append, arisingOf_cons_inl] at hall
  have hlt : ∀ x ∈ arisingOf before, x.1 < t := by
    rintro ⟨u, b⟩ hx
    exact lt_of_queueKey_le (hbefore _ (mem_arisingOf.mp hx) _ List.mem_cons_self)
  have hge : ∀ x ∈ arisingOf after, ¬ x.1 < t := by
    rintro ⟨u, b⟩ hx
    exact not_lt.mpr (le_of_queueKey_le (hafter _ (mem_arisingOf.mp hx)))
  rw [← hall, List.filter_append, List.filter_eq_self.mpr (by simpa using hlt),
    List.filter_eq_nil_iff.mpr (by simpa using hge), List.append_nil]

end Cut

end ManetOlsr.Lib
