/-
Reading what was written into a buffer of bytes.

A reader takes bytes from the front of a buffer and may fail, as where it would pass the end or
where an assertion does not hold.  `Reads r w a` says that `r` reads `a` off the bytes `w`, whatever
comes after them, and takes no more than these.  The rules follow the way readers are put together,
so that the round trip of a format is the round trip of its fields.  `Takes r post` says of every
buffer, well formed or not, what a reader that does not fail has read and how many bytes it has taken.

Numbers are in network byte order.
-/
import Mathlib.Algebra.Order.Ring.Int
import Mathlib.Tactic.Common

namespace ManetOlsr.Lib

abbrev Reader (α : Type) : Type := StateT (List UInt8) Option α

namespace Reader

variable {α β : Type}

/-- Go on only if an assertion holds. -/
def assert (p : Prop) [Decidable p] : Reader Unit := if p then pure () else failure

def readU8 : Reader UInt8
  | [] => none
  | b :: rest => some (b, rest)

def readNtohU16 : Reader UInt16 := do
  let b₁ ← readU8
  let b₂ ← readU8
  pure (UInt16.ofNat (b₁.toNat * 256 + b₂.toNat))

def readNtohU32 : Reader UInt32 := do
  let b₁ ← readU8
  let b₂ ← readU8
  let b₃ ← readU8
  let b₄ ← readU8
  pure (UInt32.ofNat (((b₁.toNat * 256 + b₂.toNat) * 256 + b₃.toNat) * 256 + b₄.toNat))

/-- Read a number of items. -/
def readMany (r : Reader α) : ℕ → Reader (List α)
  | 0 => pure []
  | n + 1 => do
    let a ← r
    let l ← readMany r n
    pure (a :: l)

/-- `for (int n = …; n; --n)`, for a number of rounds. -/
def readCountdown (r : Reader α) : ℕ → ℤ → Reader (List α)
  | 0, n => do
    assert (n = 0)
    pure []
  | rounds + 1, n =>
    if n = 0 then pure []
    else do
      let a ← r
      let l ← readCountdown r rounds (n - 1)
      pure (a :: l)

end Reader

def writeU8 (b : UInt8) : List UInt8 := [b]

def writeHtonU16 (x : UInt16) : List UInt8 := [UInt8.ofNat (x.toNat / 256), UInt8.ofNat x.toNat]

def writeHtonU32 (x : UInt32) : List UInt8 :=
  [UInt8.ofNat (x.toNat / 16777216), UInt8.ofNat (x.toNat / 65536), UInt8.ofNat (x.toNat / 256),
    UInt8.ofNat x.toNat]

@[simp] lemma length_writeU8 (b : UInt8) : (writeU8 b).length = 1 := rfl

@[simp] lemma length_writeHtonU16 (x : UInt16) : (writeHtonU16 x).length = 2 := rfl

@[simp] lemma length_writeHtonU32 (x : UInt32) : (writeHtonU32 x).length = 4 := rfl

/-- Items of one size. -/
lemma length_flatMap_const {α : Type} {w : α → List UInt8} {k : ℕ} (hw : ∀ a, (w a).length = k)
    (l : List α) : (l.flatMap w).length = k * l.length := by
  induction l with
  | nil => rfl
  | cons a l ih =>
    rw [List.flatMap_cons, List.length_append, hw, ih, List.length_cons, Nat.mul_succ, Nat.add_comm]

/-! ### Reading back -/

/-- The reader reads `a` off the bytes `w`, and leaves what comes after them. -/
def Reads {α : Type} (r : Reader α) (w : List UInt8) (a : α) : Prop :=
  ∀ rest, r.run (w ++ rest) = some (a, rest)

namespace Reads

variable {α β : Type} {r : Reader α} {f : α → Reader β} {w w' : List UInt8} {a : α} {b : β}

lemma pure (a : α) : Reads (Pure.pure a) [] a := fun _ => rfl

lemma bind (hr : Reads r w a) (hf : Reads (f a) w' b) : Reads (r >>= f) (w ++ w') b := by
  intro rest
  rw [StateT.run_bind, List.append_assoc, hr]
  exact hf rest

/-- What is made of the last item read. -/
lemma last {g : α → β} (hr : Reads r w a) : Reads (r >>= fun a => Pure.pure (g a)) w (g a) := by
  have hpure := hr.bind (f := fun a => Pure.pure (g a)) (Reads.pure (g a))
  rwa [List.append_nil] at hpure

/-- An assertion that holds reads nothing. -/
lemma assert {p : Prop} [Decidable p] {g : Unit → Reader β} (hp : p) (hg : Reads (g ()) w b) :
    Reads (Reader.assert p >>= g) w b := by
  intro rest
  rw [Reader.assert, if_pos hp]
  exact hg rest

lemma u8 (b : UInt8) : Reads Reader.readU8 (writeU8 b) b := fun _ => rfl

lemma u16 (x : UInt16) : Reads Reader.readNtohU16 (writeHtonU16 x) x := by
  intro rest
  have hx : UInt16.ofNat ((UInt8.ofNat (x.toNat / 256)).toNat * 256 + (UInt8.ofNat x.toNat).toNat) =
      x := by
    have hlt := x.toNat_lt
    apply UInt16.toNat_inj.mp
    simp only [UInt8.toNat_ofNat', UInt16.toNat_ofNat']
    omega
  exact congrArg (fun y => some (y, rest)) hx

lemma u32 (x : UInt32) : Reads Reader.readNtohU32 (writeHtonU32 x) x := by
  intro rest
  have hx : UInt32.ofNat ((((UInt8.ofNat (x.toNat / 16777216)).toNat * 256 +
      (UInt8.ofNat (x.toNat / 65536)).toNat) * 256 + (UInt8.ofNat (x.toNat / 256)).toNat) * 256 +
      (UInt8.ofNat x.toNat).toNat) = x := by
    have hlt := x.toNat_lt
    apply UInt32.toNat_inj.mp
    simp only [UInt8.toNat_ofNat', UInt32.toNat_ofNat']
    omega
  exact congrArg (fun y => some (y, rest)) hx

/-- Items written one after another are read back one after another. -/
lemma many {w : α → List UInt8} (hr : ∀ a, Reads r (w a) a) (l : List α) :
    Reads (Reader.readMany r l.length) (l.flatMap w) l := by
  induction l with
  | nil => exact Reads.pure []
  | cons a l ih =>
    rw [List.flatMap_cons]
    exact (hr a).bind ih.last

end Reads

/-- Items that take a number of bytes each are read as long as there are bytes enough. -/
lemma readMany_run {α : Type} {r : Reader α} {m : ℕ}
    (hr : ∀ bytes : List UInt8, m ≤ bytes.length → ∃ a, r.run bytes = some (a, bytes.drop m))
    (n : ℕ) (bytes : List UInt8) (h : m * n ≤ bytes.length) :
    ∃ l, (Reader.readMany r n).run bytes = some (l, bytes.drop (m * n)) := by
  induction n generalizing bytes with
  | zero => exact ⟨[], rfl⟩
  | succ n ih =>
    rw [Nat.mul_succ] at h
    obtain ⟨a, hfirst⟩ := hr bytes (by omega)
    have hlength : m * n ≤ (bytes.drop m).length := by
      rw [List.length_drop]
      omega
    obtain ⟨l, hl⟩ := ih (bytes.drop m) hlength
    refine ⟨a :: l, ?_⟩
    rw [Reader.readMany, StateT.run_bind, hfirst]
    show ((Reader.readMany r n).run (bytes.drop m)).bind _ = _
    rw [hl, List.drop_drop, Nat.mul_succ, Nat.add_comm m]
    rfl

lemma readNtohU32_run (bytes : List UInt8) (h : 4 ≤ bytes.length) :
    ∃ a, Reader.readNtohU32.run bytes = some (a, bytes.drop 4) :=
  match bytes, h with
  | _ :: _ :: _ :: _ :: _, _ => ⟨_, rfl⟩

/-! ### Bytes taken -/

/-- Where the reader does not fail, the item that it reads and the number of bytes that it takes for it
satisfy `post`. -/
def Takes {α : Type} (r : Reader α) (post : α → ℕ → Prop) : Prop :=
  ∀ bytes a rest, r.run bytes = some (a, rest) →
    ∃ k, bytes.length = k + rest.length ∧ post a k

namespace Takes

variable {α β : Type} {r : Reader α} {f : α → Reader β} {post : α → ℕ → Prop} {q : β → ℕ → Prop}

lemma pure {a : α} (h : post a 0) : Takes (Pure.pure a) post := by
  intro bytes b rest hrun
  cases hrun
  exact ⟨0, (Nat.zero_add _).symm, h⟩

lemma bind (hr : Takes r post) (hf : ∀ a k, post a k → Takes (f a) fun b k' => q b (k + k')) :
    Takes (r >>= f) q := by
  intro bytes b rest hrun
  rw [StateT.run_bind] at hrun
  obtain ⟨⟨a, bytes'⟩, hfirst, hsecond⟩ := Option.bind_eq_some_iff.mp hrun
  obtain ⟨k, hk, hpost⟩ := hr bytes a bytes' hfirst
  obtain ⟨k', hk', hq⟩ := hf a k hpost bytes' b rest hsecond
  exact ⟨k + k', by omega, hq⟩

/-- Behind an assertion, it holds. -/
lemma assert {p : Prop} [Decidable p] {g : Unit → Reader β} (hg : p → Takes (g ()) q) :
    Takes (Reader.assert p >>= g) q := by
  intro bytes b rest hrun
  by_cases hp : p
  · rw [Reader.assert, if_pos hp] at hrun
    exact hg hp bytes b rest hrun
  · rw [Reader.assert, if_neg hp] at hrun
    cases hrun

lemma u8 : Takes Reader.readU8 fun _ k => k = 1 := by
  intro bytes b rest hrun
  cases bytes with
  | nil => cases hrun
  | cons b' bytes =>
    cases hrun
    exact ⟨1, Nat.add_comm _ _, rfl⟩

lemma u16 : Takes Reader.readNtohU16 fun _ k => k = 2 := by
  refine u8.bind fun _ k hk => u8.bind fun _ k' hk' => pure ?_
  omega

lemma u32 : Takes Reader.readNtohU32 fun _ k => k = 4 := by
  refine u8.bind fun _ k hk => u8.bind fun _ k' hk' => u8.bind fun _ k₃ hk₃ =>
    u8.bind fun _ k₄ hk₄ => pure ?_
  omega

/-- A number of items of one size. -/
lemma many {m : ℕ} (hr : Takes r fun _ k => k = m) (n : ℕ) :
    Takes (Reader.readMany r n) fun l k => l.length = n ∧ k = m * n := by
  induction n with
  | zero => exact pure ⟨rfl, rfl⟩
  | succ n ih =>
    refine hr.bind fun a k hk => ih.bind fun l k' hk' => pure ?_
    rw [List.length_cons, Nat.mul_succ]
    omega

/-- A countdown from a number of items reads that number of items. -/
lemma countdown_run {m : ℕ} (hr : Takes r fun _ k => k = m) (hm : 0 < m) {rounds n : ℕ}
    {bytes : List UInt8} (hrounds : bytes.length ≤ rounds) :
    (Reader.readCountdown r rounds n).run bytes = (Reader.readMany r n).run bytes := by
  induction n generalizing rounds bytes with
  | zero =>
    cases rounds with
    | zero => rfl
    | succ rounds => rw [Reader.readCountdown, Nat.cast_zero, if_pos rfl]; rfl
  | succ n ih =>
    have hne : ((n + 1 : ℕ) : ℤ) ≠ 0 := by omega
    have hpred : ((n + 1 : ℕ) : ℤ) - 1 = n := by omega
    cases hfirst : r.run bytes with
    | none =>
      cases rounds with
      | zero =>
        rw [Reader.readCountdown, Reader.readMany, Reader.assert, if_neg hne, StateT.run_bind,
          StateT.run_bind, hfirst]
        rfl
      | succ rounds =>
        rw [Reader.readCountdown, if_neg hne, Reader.readMany, StateT.run_bind, StateT.run_bind,
          hfirst]
        rfl
    | some x =>
      obtain ⟨a, rest⟩ := x
      obtain ⟨k, hk, rfl⟩ := hr bytes a rest hfirst
      cases rounds with
      | zero => omega
      | succ rounds =>
        have hrounds' : rest.length ≤ rounds := by omega
        have hrest := ih hrounds'
        rw [Reader.readCountdown, if_neg hne, Reader.readMany, StateT.run_bind, StateT.run_bind,
          hfirst, hpred]
        show ((Reader.readCountdown r rounds n).run rest).bind _ = _
        rw [hrest]
        rfl

/-- A countdown from below zero never comes to zero. -/
lemma countdown_neg {n : ℤ} (hn : n < 0) (rounds : ℕ) (bytes : List UInt8) :
    (Reader.readCountdown r rounds n).run bytes = none := by
  induction rounds generalizing n bytes with
  | zero =>
    rw [Reader.readCountdown, Reader.assert, if_neg hn.ne]
    rfl
  | succ rounds ih =>
    rw [Reader.readCountdown, if_neg hn.ne, StateT.run_bind]
    cases hfirst : r.run bytes with
    | none => rfl
    | some x =>
      show ((Reader.readCountdown r rounds (n - 1)).run x.2).bind _ = none
      rw [ih (by omega)]
      rfl

end Takes

end ManetOlsr.Lib
