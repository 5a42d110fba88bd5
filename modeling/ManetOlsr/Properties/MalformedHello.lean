/-
HELLO messages off the wire (`Hello::Deserialize`).

The loop over the link messages counts down what is left of the message by the sizes that the link
messages tell, and never compares the two.  Every round takes bytes off the buffer, so that the loop
ends.  But a size of zero, or one that is larger than what is left, makes it read the addresses of a
link message behind the end of the message, and the counter wraps around; and a message that is
smaller than its own header is read as one of nearly 64 KiB.
-/
import ManetOlsr.Properties.MessageCodec
import Mathlib.Logic.Relation

namespace ManetOlsr

open Lib Lib.Reader

/-! ### One link message -/

namespace LinkMessage

/-- The four bytes before the addresses. -/
def readHeader : Reader (UInt8 × UInt16) := do
  let linkCode ← readU8
  let _ ← readU8
  let lmSize ← readNtohU16
  pure (linkCode, lmSize)

lemma readHeader_takes : Takes readHeader fun _ k => k = 4 := by
  refine Takes.u8.bind fun _ k₁ hk₁ => Takes.u8.bind fun _ k₂ hk₂ =>
    Takes.u16.bind fun _ k₃ hk₃ => Takes.pure ?_
  omega

lemma readHeader_run (bytes : List UInt8) (h : 4 ≤ bytes.length) :
    ∃ y, readHeader.run bytes = some (y, bytes.drop 4) :=
  match bytes, h with
  | _ :: _ :: _ :: _ :: _, _ => ⟨_, rfl⟩

/-- The assertions on the size, and the addresses. -/
def readAddresses (linkCode : UInt8) (lmSize : UInt16) : Reader (LinkMessage × UInt16) := do
  assert (4 ≤ lmSize.toNat)
  assert ((lmSize.toNat - 4) % ipv4AddressSize = 0)
  let addresses ← readMany readNtohU32 ((lmSize.toNat - 4) / ipv4AddressSize)
  pure (⟨linkCode, addresses⟩, lmSize)

lemma deserialize_eq : deserialize = readHeader >>= fun y => readAddresses y.1 y.2 := by
  simp only [deserialize, readHeader, readAddresses, bind_assoc, pure_bind]

/-- A link message takes the bytes that its size tells. -/
lemma takes : Takes deserialize fun x k =>
    x.2.toNat = x.1.getSerializedSize ∧ k = x.1.getSerializedSize := by
  refine Takes.u8.bind fun linkCode k₁ hk₁ => Takes.u8.bind fun _ k₂ hk₂ =>
    Takes.u16.bind fun lmSize k₃ hk₃ => Takes.assert fun hfour => Takes.assert fun hdivides =>
    (Takes.many Takes.u32 _).bind fun addresses k₄ hk₄ => Takes.pure ?_
  simp only [getSerializedSize, ipv4AddressSize] at hdivides hk₄ ⊢
  omega

lemma readAddresses_takes (linkCode : UInt8) (lmSize : UInt16) :
    Takes (readAddresses linkCode lmSize) fun x _ => x.2 = lmSize :=
  Takes.assert fun _ => Takes.assert fun _ =>
    (Takes.many Takes.u32 _).bind fun _ _ _ => Takes.pure rfl

/-- The addresses are read if the size is one that a link message can have, and all the bytes that it
tells are there. -/
lemma readAddresses_run {behind rest : List UInt8} {lmSize : UInt16} (linkCode : UInt8) :
    (∃ x, (readAddresses linkCode lmSize).run behind = some (x, rest) ∧ x.2 = lmSize) ↔
      4 ≤ lmSize.toNat ∧ lmSize.toNat % 4 = 0 ∧ lmSize.toNat - 4 ≤ behind.length ∧
        rest = behind.drop (lmSize.toNat - 4) := by
  by_cases hfour : 4 ≤ lmSize.toNat
  case neg =>
    rw [readAddresses, assert, if_neg hfour]
    refine iff_of_false ?_ fun h => hfour h.1
    rintro ⟨x, hx, -⟩
    cases hx
  by_cases hdivides : (lmSize.toNat - 4) % ipv4AddressSize = 0
  case neg =>
    rw [readAddresses, assert, assert, if_pos hfour, if_neg hdivides]
    refine iff_of_false ?_ fun h => hdivides (by rw [ipv4AddressSize]; omega)
    rintro ⟨x, hx, -⟩
    cases hx
  obtain ⟨n, hn⟩ : ∃ n, lmSize.toNat = 4 + 4 * n := by
    rw [ipv4AddressSize] at hdivides
    exact ⟨(lmSize.toNat - 4) / 4, by omega⟩
  have hcount : (lmSize.toNat - 4) / ipv4AddressSize = n := by
    rw [ipv4AddressSize]
    omega
  have hbytes : lmSize.toNat - 4 = 4 * n := by omega
  rw [readAddresses, assert, assert, if_pos hfour, if_pos hdivides, hcount, hbytes]
  constructor
  · rintro ⟨x, hx, -⟩
    obtain ⟨⟨l, rest'⟩, hmany, hpure⟩ := Option.bind_eq_some_iff.mp hx
    cases hpure
    obtain ⟨k, hk, -, rfl⟩ := Takes.many Takes.u32 n behind l rest hmany
    obtain ⟨l', hl'⟩ := readMany_run readNtohU32_run n behind (by omega)
    cases hmany.symm.trans hl'
    exact ⟨hfour, by omega, by omega, rfl⟩
  · rintro ⟨-, -, hlength, rfl⟩
    obtain ⟨l, hl⟩ := readMany_run readNtohU32_run n behind hlength
    refine ⟨(⟨linkCode, l⟩, lmSize), ?_, rfl⟩
    show ((readMany readNtohU32 n).run behind).bind _ = _
    rw [hl]
    rfl

lemma run_iff {bytes rest : List UInt8} {lmSize : UInt16} :
    (∃ x, deserialize.run bytes = some (x, rest) ∧ x.2 = lmSize) ↔
      ∃ linkCode behind, readHeader.run bytes = some ((linkCode, lmSize), behind) ∧
        4 ≤ lmSize.toNat ∧ lmSize.toNat % 4 = 0 ∧ lmSize.toNat - 4 ≤ behind.length ∧
        rest = behind.drop (lmSize.toNat - 4) := by
  rw [deserialize_eq]
  constructor
  · rintro ⟨x, hx, hsize⟩
    obtain ⟨⟨⟨linkCode, lmSize'⟩, behind⟩, hheader, haddresses⟩ := Option.bind_eq_some_iff.mp hx
    obtain ⟨-, -, hsize'⟩ := readAddresses_takes linkCode lmSize' behind x rest haddresses
    obtain rfl : lmSize = lmSize' := hsize.symm.trans hsize'
    exact ⟨linkCode, behind, hheader, (readAddresses_run linkCode).mp ⟨x, haddresses, hsize⟩⟩
  · rintro ⟨linkCode, behind, hheader, h⟩
    obtain ⟨x, hx, hsize⟩ := (readAddresses_run linkCode).mpr h
    refine ⟨x, ?_, hsize⟩
    rw [StateT.run_bind, hheader]
    exact hx

end LinkMessage

/-! ### The loop -/

namespace Hello

/-- The loop where a round begins: the counter, and the bytes in front of the iterator. -/
structure Loop where
  helloSizeLeft : UInt16
  bytes : List UInt8

namespace Loop

variable {s s' : Loop} {rest : List UInt8}

/-- A round that comes to its end. -/
def Round (s s' : Loop) : Prop :=
  4 ≤ s.helloSizeLeft.toNat ∧
    ∃ x, LinkMessage.deserialize.run s.bytes = some (x, s'.bytes) ∧
      s'.helloSizeLeft = s.helloSizeLeft - x.2

/-- A round reads up to `rest`: the header of a link message, and a number of addresses at each of
which the count, an `int`, has not come down to zero. -/
def ReadsTo (s : Loop) (rest : List UInt8) : Prop :=
  4 ≤ s.helloSizeLeft.toNat ∧
    ∃ linkCode lmSize behind,
      LinkMessage.readHeader.run s.bytes = some ((linkCode, lmSize), behind) ∧
      ∃ n : ℕ, (0 < n → ((lmSize.toNat : ℤ) - 4).tmod ipv4AddressSize = 0) ∧
        (∀ i < n, ((lmSize.toNat : ℤ) - 4).tdiv ipv4AddressSize ≠ i) ∧
        ∃ addresses, (readMany readNtohU32 n).run behind = some (addresses, rest)

lemma round_iff : Round s s' ↔ 4 ≤ s.helloSizeLeft.toNat ∧
    ∃ linkCode lmSize behind,
      LinkMessage.readHeader.run s.bytes = some ((linkCode, lmSize), behind) ∧
      4 ≤ lmSize.toNat ∧ lmSize.toNat % 4 = 0 ∧ lmSize.toNat - 4 ≤ behind.length ∧
      s' = ⟨s.helloSizeLeft - lmSize, behind.drop (lmSize.toNat - 4)⟩ := by
  obtain ⟨helloSizeLeft', bytes'⟩ := s'
  refine and_congr_right fun _ => ?_
  constructor
  · rintro ⟨x, hx, hleft⟩
    obtain ⟨linkCode, behind, hheader, hfour, hdivides, hlength, hrest⟩ :=
      LinkMessage.run_iff.mp ⟨x, hx, rfl⟩
    exact ⟨linkCode, x.2, behind, hheader, hfour, hdivides, hlength, by rw [← hrest, ← hleft]⟩
  · rintro ⟨linkCode, lmSize, behind, hheader, hfour, hdivides, hlength, hs'⟩
    obtain ⟨rfl, rfl⟩ := Loop.mk.inj hs'
    obtain ⟨x, hx, rfl⟩ :=
      LinkMessage.run_iff.mpr ⟨linkCode, behind, hheader, hfour, hdivides, hlength, rfl⟩
    exact ⟨x, hx, rfl⟩

/-- The assertion on the size, whose difference is an `int`. -/
lemma tmod_eq_zero {lmSize : ℕ} :
    ((lmSize : ℤ) - 4).tmod ipv4AddressSize = 0 ↔ lmSize % 4 = 0 := by
  rw [← Int.dvd_iff_tmod_eq_zero, ipv4AddressSize]
  omega

/-- The number of addresses is -1 for a size of zero, so that the count never comes down to zero. -/
lemma tdiv_ne_iff {lmSize n : ℕ} (h : lmSize % 4 = 0) :
    (∀ i < n, ((lmSize : ℤ) - 4).tdiv ipv4AddressSize ≠ i) ↔ lmSize = 0 ∨ 4 + 4 * n ≤ lmSize := by
  obtain ⟨m, rfl⟩ := Nat.dvd_of_mod_eq_zero h
  have hcount : (((4 * m : ℕ) : ℤ) - 4).tdiv ipv4AddressSize = m - 1 := by
    rw [show ((4 * m : ℕ) : ℤ) - 4 = 4 * (m - 1) by omega, ipv4AddressSize]
    exact Int.mul_tdiv_cancel_left _ (by decide)
  rw [hcount]
  constructor
  · intro hne
    by_contra hcontra
    exact hne (m - 1) (by omega) (by omega)
  · intro hsize i hi
    omega

/-- Up to where a round can read. -/
lemma readsTo_iff : ReadsTo s rest ↔ 4 ≤ s.helloSizeLeft.toNat ∧
    ∃ linkCode lmSize behind,
      LinkMessage.readHeader.run s.bytes = some ((linkCode, lmSize), behind) ∧
      ∃ n, (0 < n → lmSize.toNat % 4 = 0 ∧ (lmSize = 0 ∨ 4 + 4 * n ≤ lmSize.toNat)) ∧
        4 * n ≤ behind.length ∧ rest = behind.drop (4 * n) := by
  refine and_congr_right fun _ => exists_congr fun linkCode => exists_congr fun lmSize =>
    exists_congr fun behind => and_congr_right fun _ => exists_congr fun n => ?_
  have hmany : (∃ addresses, (readMany readNtohU32 n).run behind = some (addresses, rest)) ↔
      4 * n ≤ behind.length ∧ rest = behind.drop (4 * n) := by
    constructor
    · rintro ⟨addresses, h⟩
      obtain ⟨k, hk, -, rfl⟩ := Takes.many Takes.u32 n behind addresses rest h
      obtain ⟨l, hl⟩ := readMany_run readNtohU32_run n behind (by omega)
      cases h.symm.trans hl
      exact ⟨by omega, rfl⟩
    · rintro ⟨hlength, rfl⟩
      exact readMany_run readNtohU32_run n behind hlength
  rw [hmany, ← and_assoc, tmod_eq_zero]
  refine and_congr_left fun _ => ?_
  have hzero : lmSize = 0 ↔ lmSize.toNat = 0 := UInt16.toNat_inj.symm
  constructor
  · rintro ⟨hdivides, hcount⟩ hn
    rw [hzero]
    exact ⟨hdivides hn, (tdiv_ne_iff (hdivides hn)).mp hcount⟩
  · intro h
    refine ⟨fun hn => (h hn).1, fun i hi => ?_⟩
    have hn := h (by omega)
    rw [hzero] at hn
    exact (tdiv_ne_iff hn.1).mpr hn.2 i hi

/-- The loop reads in steps of four bytes. -/
lemma ReadsTo.length (h : ReadsTo s rest) : ∃ k, s.bytes.length = 4 * k + rest.length := by
  obtain ⟨-, linkCode, lmSize, behind, hheader, n, -, hn, rfl⟩ := readsTo_iff.mp h
  obtain ⟨k, hk, rfl⟩ := LinkMessage.readHeader_takes _ _ _ hheader
  refine ⟨n + 1, ?_⟩
  rw [List.length_drop]
  omega

lemma Round.length (h : Round s s') :
    ∃ k, 0 < k ∧ s.bytes.length = 4 * k + s'.bytes.length := by
  obtain ⟨-, linkCode, lmSize, behind, hheader, hfour, hdivides, hlength, rfl⟩ := round_iff.mp h
  obtain ⟨k, hk, rfl⟩ := LinkMessage.readHeader_takes _ _ _ hheader
  refine ⟨lmSize.toNat / 4, by omega, ?_⟩
  rw [List.length_drop]
  omega

/-- Every completed round reads up to where the next one begins. -/
lemma Round.readsTo (h : Round s s') : ReadsTo s s'.bytes := by
  obtain ⟨hleft, linkCode, lmSize, behind, hheader, hfour, hdivides, hlength, rfl⟩ :=
    round_iff.mp h
  refine readsTo_iff.mpr ⟨hleft, linkCode, lmSize, behind, hheader, (lmSize.toNat - 4) / 4, ?_, ?_, ?_⟩
  · intro _
    exact ⟨hdivides, Or.inr (by omega)⟩
  · omega
  · rw [show 4 * ((lmSize.toNat - 4) / 4) = lmSize.toNat - 4 by omega]

lemma length_of_rounds (h : Relation.ReflTransGen Round s s') :
    ∃ k, s.bytes.length = 4 * k + s'.bytes.length := by
  induction h with
  | refl => exact ⟨0, by omega⟩
  | tail _ hround ih =>
    obtain ⟨k, hk⟩ := ih
    obtain ⟨k', -, hk'⟩ := hround.length
    exact ⟨k + k', by omega⟩

end Loop

/-! ### Sizes that fit -/

/-- With `left` bytes of the message to go, every link message of the buffer has a size between four
and what is left, up to one whose size is no multiple of four; or the buffer ends before the loop could
read anything that is behind the message. -/
inductive SizesFit : ℕ → List UInt8 → Prop
  | ended {left : ℕ} {bytes : List UInt8} (h : left < 4) : SizesFit left bytes
  | cut {left : ℕ} {bytes : List UInt8} (h : bytes.length < 4 * (left / 4) + 4) :
    SizesFit left bytes
  | odd {left : ℕ} {bytes behind : List UInt8} {linkCode : UInt8} {lmSize : UInt16}
    (hheader : LinkMessage.readHeader.run bytes = some ((linkCode, lmSize), behind))
    (h : lmSize.toNat % 4 ≠ 0) : SizesFit left bytes
  | next {left : ℕ} {bytes behind : List UInt8} {linkCode : UInt8} {lmSize : UInt16}
    (hheader : LinkMessage.readHeader.run bytes = some ((linkCode, lmSize), behind))
    (hfour : 4 ≤ lmSize.toNat) (hle : lmSize.toNat ≤ left)
    (h : SizesFit (left - lmSize.toNat) (behind.drop (lmSize.toNat - 4))) : SizesFit left bytes

namespace Loop

variable {s s' : Loop} {rest : List UInt8}

/-- Wherever the loop comes from here on, it has not passed the end of the message. -/
def Within (s : Loop) : Prop :=
  ∀ s' rest, Relation.ReflTransGen Round s s' → ReadsTo s' rest →
    s.bytes.length ≤ s.helloSizeLeft.toNat + rest.length

lemma within_of_sizesFit {left : ℕ} {bytes : List UInt8} (h : SizesFit left bytes)
    (hleft : s.helloSizeLeft.toNat = left) (hbytes : s.bytes = bytes) : Within s := by
  -- By induction on how the sizes fit: each link message is one round of the loop.
  induction h generalizing s with
  | ended h =>
    intro s' rest hrounds hread
    have hlow : ∀ s', ¬ Round s s' := fun s' hround => by
      have := hround.1
      omega
    obtain rfl | ⟨s₁, hround, -⟩ := hrounds.cases_head
    · have := hread.1
      omega
    · exact absurd hround (hlow s₁)
  | cut h =>
    intro s' rest hrounds hread
    obtain ⟨k, hk⟩ := length_of_rounds hrounds
    obtain ⟨k', hk'⟩ := hread.length
    subst hbytes hleft
    omega
  | odd hheader h =>
    intro s' rest hrounds hread
    subst hbytes
    obtain rfl | ⟨s₁, hround, -⟩ := hrounds.cases_head
    · obtain ⟨hfour, linkCode', lmSize', behind', hheader', n, hn, hlength, rfl⟩ :=
        readsTo_iff.mp hread
      cases hheader.symm.trans hheader'
      obtain ⟨k, hk, rfl⟩ := LinkMessage.readHeader_takes _ _ _ hheader
      obtain rfl : n = 0 := by
        by_contra hpos
        exact h (hn (by omega)).1
      rw [List.length_drop]
      omega
    · obtain ⟨-, linkCode', lmSize', behind', hheader', -, hdivides, -, -⟩ := round_iff.mp hround
      cases hheader.symm.trans hheader'
      exact absurd hdivides h
  | @next left bytes behind linkCode lmSize hheader hfour hle _ ih =>
    intro s' rest hrounds hread
    subst hbytes
    obtain ⟨k, hk, rfl⟩ := LinkMessage.readHeader_takes _ _ _ hheader
    obtain rfl | ⟨s₁, hround, hrounds⟩ := hrounds.cases_head
    · obtain ⟨-, linkCode', lmSize', behind', hheader', n, hn, hlength, rfl⟩ :=
        readsTo_iff.mp hread
      cases hheader.symm.trans hheader'
      rw [List.length_drop]
      obtain rfl | hpos := Nat.eq_zero_or_pos n
      · omega
      · obtain hzero | hcount := (hn hpos).2
        · rw [hzero, UInt16.toNat_zero] at hfour
          omega
        · omega
    · obtain ⟨-, linkCode', lmSize', behind', hheader', -, -, hlength, rfl⟩ := round_iff.mp hround
      cases hheader.symm.trans hheader'
      -- The size fits, so that the subtraction does not wrap around.
      have hsub : (s.helloSizeLeft - lmSize).toNat = left - lmSize.toNat := by
        rw [UInt16.toNat_sub_of_le _ _ (UInt16.le_iff_toNat_le.mpr (by omega)), hleft]
      have hrest := ih hsub rfl s' rest hrounds hread
      rw [hsub, List.length_drop] at hrest
      omega

/-- Where a size does not fit, the round reads on behind the end of the message. -/
lemma sizesFit_of_within (h : Within s) : SizesFit s.helloSizeLeft.toNat s.bytes := by
  induction hn : s.bytes.length using Nat.strong_induction_on generalizing s with
  | _ length ih =>
    subst hn
    by_cases hleft : s.helloSizeLeft.toNat < 4
    · exact .ended hleft
    by_cases hcut : s.bytes.length < 4 * (s.helloSizeLeft.toNat / 4) + 4
    · exact .cut hcut
    obtain ⟨⟨linkCode, lmSize⟩, hheader⟩ := LinkMessage.readHeader_run s.bytes (by omega)
    by_cases hdivides : lmSize.toNat % 4 = 0
    case neg => exact .odd hheader hdivides
    have hread : ∀ n, lmSize = 0 ∨ 4 + 4 * n ≤ lmSize.toNat →
        4 * n ≤ (s.bytes.drop 4).length → ReadsTo s ((s.bytes.drop 4).drop (4 * n)) :=
      fun n hn hlength => readsTo_iff.mpr ⟨by omega, linkCode, lmSize, _, hheader, n,
        fun _ => ⟨hdivides, hn⟩, hlength, rfl⟩
    have hfits : 4 ≤ lmSize.toNat ∧ lmSize.toNat ≤ s.helloSizeLeft.toNat := by
      by_contra hcontra
      have hbeyond : lmSize = 0 ∨ 4 + 4 * (s.helloSizeLeft.toNat / 4) ≤ lmSize.toNat := by
        rw [← UInt16.toNat_inj, UInt16.toNat_zero]
        omega
      have hpassed := h s _ .refl (hread _ hbeyond (by rw [List.length_drop]; omega))
      rw [List.length_drop, List.length_drop] at hpassed
      omega
    have hround : Round s ⟨s.helloSizeLeft - lmSize, (s.bytes.drop 4).drop (lmSize.toNat - 4)⟩ :=
      round_iff.mpr ⟨by omega, linkCode, lmSize, _, hheader, hfits.1, hdivides,
        by rw [List.length_drop]; omega, rfl⟩
    have hsub : (s.helloSizeLeft - lmSize).toNat = s.helloSizeLeft.toNat - lmSize.toNat :=
      UInt16.toNat_sub_of_le _ _ (UInt16.le_iff_toNat_le.mpr hfits.2)
    have hnext : Within ⟨s.helloSizeLeft - lmSize, (s.bytes.drop 4).drop (lmSize.toNat - 4)⟩ := by
      intro s' rest hrounds hread'
      have hwithin := h s' rest (.head hround hrounds) hread'
      simp only [hsub, List.length_drop]
      omega
    have hshorter : ((s.bytes.drop 4).drop (lmSize.toNat - 4)).length < s.bytes.length := by
      simp only [List.length_drop]
      omega
    refine .next hheader hfits.1 hfits.2 ?_
    rw [← hsub]
    exact ih _ hshorter hnext rfl

end Loop

/-! ### What the loop answers -/

/-- The link messages that were read are as long as what was taken off the buffer for them, and the
counter went around until it was zero. -/
lemma readLinkMessages_takes (rounds : ℕ) (helloSizeLeft : UInt16) :
    Takes (readLinkMessages rounds helloSizeLeft) fun linkMessages k =>
      k = (linkMessages.map LinkMessage.getSerializedSize).sum ∧
        k % 2 ^ 16 = helloSizeLeft.toNat := by
  induction rounds generalizing helloSizeLeft with
  | zero =>
    rw [readLinkMessages]
    refine Takes.assert fun hzero => Takes.pure ⟨rfl, ?_⟩
    rw [hzero]
    rfl
  | succ rounds ih =>
    by_cases hzero : helloSizeLeft = 0
    · rw [readLinkMessages, if_pos hzero, hzero]
      exact Takes.pure ⟨rfl, rfl⟩
    · rw [readLinkMessages, if_neg hzero]
      refine Takes.assert fun _ => LinkMessage.takes.bind fun x k hk =>
        (ih (helloSizeLeft - x.2)).bind fun linkMessages k' hk' => Takes.pure ?_
      obtain ⟨hsize, rfl⟩ := hk
      obtain ⟨rfl, hmod⟩ := hk'
      refine ⟨by rw [List.map_cons, List.sum_cons, Nat.add_zero], ?_⟩
      have hsub := UInt16.toNat_sub helloSizeLeft x.2
      have hlt := helloSizeLeft.toNat_lt
      have hlt' := x.2.toNat_lt
      omega

lemma readLinkMessages_zero (rounds : ℕ) (bytes : List UInt8) :
    (readLinkMessages rounds 0).run bytes = some ([], bytes) := by
  cases rounds with
  | zero => rfl
  | succ rounds => rfl

/-- One round of the loop. -/
lemma readLinkMessages_succ {helloSizeLeft : UInt16} (hne : helloSizeLeft ≠ 0) (rounds : ℕ)
    (bytes : List UInt8) :
    (readLinkMessages (rounds + 1) helloSizeLeft).run bytes =
      if 4 ≤ helloSizeLeft.toNat then
        (LinkMessage.deserialize.run bytes).bind fun y =>
          ((readLinkMessages rounds (helloSizeLeft - y.1.2)).run y.2).map fun z =>
            (y.1.1 :: z.1, z.2)
      else none := by
  rw [readLinkMessages, if_neg hne, assert]
  have hfour : 4 ≤ helloSizeLeft ↔ 4 ≤ helloSizeLeft.toNat := UInt16.le_iff_toNat_le
  by_cases h : 4 ≤ helloSizeLeft
  · rw [if_pos h, if_pos (hfour.mp h)]
    show (LinkMessage.deserialize.run bytes).bind _ = _
    refine Option.bind_congr fun y _ => ?_
    exact Option.map_eq_bind.symm
  · rw [if_neg h, if_neg fun h' => h (hfour.mpr h')]
    rfl

/-- Where the loop has read a link message, a round has come to where the loop ends. -/
lemma readsTo_of_run {rounds : ℕ} {s : Loop} {linkMessages : List LinkMessage} {rest : List UInt8}
    (h : (readLinkMessages rounds s.helloSizeLeft).run s.bytes = some (linkMessages, rest)) :
    s.helloSizeLeft = 0 ∨ ∃ s', Relation.ReflTransGen Loop.Round s s' ∧ s'.ReadsTo rest := by
  induction rounds generalizing s linkMessages with
  | zero =>
    by_cases hzero : s.helloSizeLeft = 0
    · exact Or.inl hzero
    · rw [readLinkMessages, assert, if_neg hzero] at h
      cases h
  | succ rounds ih =>
    by_cases hzero : s.helloSizeLeft = 0
    · exact Or.inl hzero
    · right
      rw [readLinkMessages_succ hzero] at h
      split_ifs at h with hfour
      obtain ⟨⟨x, bytes⟩, hx, hmap⟩ := Option.bind_eq_some_iff.mp h
      obtain ⟨⟨linkMessages', rest'⟩, hrest, heq⟩ := Option.map_eq_some_iff.mp hmap
      cases heq
      have hround : Loop.Round s ⟨s.helloSizeLeft - x.2, bytes⟩ := ⟨hfour, x, hx, rfl⟩
      rcases ih (s := ⟨s.helloSizeLeft - x.2, bytes⟩) hrest with hdone | ⟨s', hrounds, hread⟩
      · have hend : (readLinkMessages rounds (s.helloSizeLeft - x.2)).run bytes = some ([], bytes) := by
          rw [show s.helloSizeLeft - x.2 = 0 from hdone, readLinkMessages_zero]
        cases hrest.symm.trans hend
        exact ⟨s, .refl, hround.readsTo⟩
      · exact ⟨s', .head hround hrounds, hread⟩

lemma readLinkMessages_nil {helloSizeLeft : UInt16} (hne : helloSizeLeft ≠ 0) (rounds : ℕ) :
    (readLinkMessages rounds helloSizeLeft).run [] = none := by
  cases rounds with
  | zero =>
    rw [readLinkMessages, assert, if_neg hne]
    rfl
  | succ rounds =>
    rw [readLinkMessages_succ hne]
    exact ite_self none

/-- As many rounds as there are bytes are enough. -/
lemma readLinkMessages_congr {rounds rounds' : ℕ} {helloSizeLeft : UInt16} {bytes : List UInt8}
    (h : bytes.length ≤ rounds) (h' : bytes.length ≤ rounds') :
    (readLinkMessages rounds helloSizeLeft).run bytes =
      (readLinkMessages rounds' helloSizeLeft).run bytes := by
  induction rounds generalizing rounds' helloSizeLeft bytes with
  | zero =>
    obtain rfl := List.eq_nil_of_length_eq_zero (Nat.le_zero.mp h)
    by_cases hzero : helloSizeLeft = 0
    · rw [hzero, readLinkMessages_zero, readLinkMessages_zero]
    · rw [readLinkMessages_nil hzero, readLinkMessages_nil hzero]
  | succ rounds ih =>
    by_cases hzero : helloSizeLeft = 0
    · rw [hzero, readLinkMessages_zero, readLinkMessages_zero]
    cases rounds' with
    | zero =>
      obtain rfl := List.eq_nil_of_length_eq_zero (Nat.le_zero.mp h')
      rw [readLinkMessages_nil hzero, readLinkMessages_nil hzero]
    | succ rounds' =>
      rw [readLinkMessages_succ hzero, readLinkMessages_succ hzero]
      congr 1
      refine Option.bind_congr fun y hy => ?_
      obtain ⟨k, hk, hsize, rfl⟩ := LinkMessage.takes bytes y.1 y.2 hy
      have hpos : 4 ≤ y.1.1.getSerializedSize := Nat.le_add_right 4 _
      have hrounds : y.2.length ≤ rounds := by omega
      have hrounds' : y.2.length ≤ rounds' := by omega
      rw [ih hrounds hrounds']

/-! ### The whole message -/

/-- The number of bytes that the message header hands to `Hello::Deserialize`. -/
def bodySize (messageSize : UInt16) : UInt32 :=
  UInt32.ofNat messageSize.toNat - UInt32.ofNat olsrMsgHeaderSize

/-- The loop begins behind the four fixed bytes, with a counter of 16 bits. -/
def Starts (messageSize : UInt16) (bytes : List UInt8) (s : Loop) : Prop :=
  4 ≤ bodySize messageSize ∧ 4 ≤ bytes.length ∧
    s = ⟨(bodySize messageSize).toUInt16 - 4, bytes.drop 4⟩

/-- Whether the message is read or not, the loop does not pass the end of the message. -/
def StaysWithin (messageSize : UInt16) (bytes : List UInt8) : Prop :=
  ∀ s s' rest, Starts messageSize bytes s → Relation.ReflTransGen Loop.Round s s' →
    s'.ReadsTo rest → olsrMsgHeaderSize + bytes.length ≤ messageSize.toNat + rest.length

/-- A HELLO message is parsed as it should be: the loop ends, and every round takes bytes off the
buffer; a message that is read has the size that its header tells, and has taken as many bytes; and
the loop stays within the message. -/
structure ParsesExactly (messageSize : UInt16) (bytes : List UInt8) : Prop where
  terminates : ¬ ∃ f : ℕ → Loop, Starts messageSize bytes (f 0) ∧ ∀ n, (f n).Round (f (n + 1))
  progress : ∀ s s' s'', Starts messageSize bytes s → Relation.ReflTransGen Loop.Round s s' →
    s'.Round s'' → s''.bytes.length < s'.bytes.length
  exact : ∀ hello size rest,
    (deserialize (bodySize messageSize)).run bytes = some ((hello, size), rest) →
      olsrMsgHeaderSize + hello.getSerializedSize = messageSize.toNat ∧
      olsrMsgHeaderSize + bytes.length = messageSize.toNat + rest.length
  within : StaysWithin messageSize bytes

/-- The message is not smaller than its own header, or too little follows for a link message; and the
sizes of its link messages fit. -/
def MessageFits (messageSize : UInt16) (bytes : List UInt8) : Prop :=
  (messageSize.toNat < 12 → bytes.length < 8) ∧
    (16 ≤ messageSize.toNat → SizesFit (messageSize.toNat - 16) (bytes.drop 4))

/-- Below its own header, the size of a message wraps around; and in the counter once more. -/
lemma starts_iff {messageSize : UInt16} {bytes : List UInt8} {s : Loop} :
    Starts messageSize bytes s ↔ (messageSize.toNat < 12 ∨ 16 ≤ messageSize.toNat) ∧
      4 ≤ bytes.length ∧ s = ⟨messageSize - 16, bytes.drop 4⟩ := by
  have hlt := messageSize.toNat_lt
  have hbody : (bodySize messageSize).toNat = (2 ^ 32 - 12 + messageSize.toNat) % 2 ^ 32 := by
    rw [bodySize, UInt32.toNat_sub, olsrMsgHeaderSize]
    simp only [UInt32.toNat_ofNat']
    omega
  have hleft : (bodySize messageSize).toUInt16 - 4 = messageSize - 16 := by
    apply UInt16.toNat_inj.mp
    rw [UInt16.toNat_sub, UInt16.toNat_sub, UInt32.toNat_toUInt16, hbody]
    show (2 ^ 16 - 4 + _) % 2 ^ 16 = (2 ^ 16 - 16 + _) % 2 ^ 16
    omega
  have hfour : 4 ≤ bodySize messageSize ↔ messageSize.toNat < 12 ∨ 16 ≤ messageSize.toNat := by
    rw [UInt32.le_iff_toNat_le, hbody]
    show 4 ≤ _ ↔ _
    omega
  rw [Starts, hfour, hleft]

lemma staysWithin_iff {messageSize : UInt16} {bytes : List UInt8} :
    StaysWithin messageSize bytes ↔ MessageFits messageSize bytes := by
  have hlt := messageSize.toNat_lt
  have hsub : (messageSize - 16).toNat = (2 ^ 16 - 16 + messageSize.toNat) % 2 ^ 16 :=
    UInt16.toNat_sub _ _
  constructor
  · intro h
    constructor
    · intro hsmall
      -- The counter has wrapped around: a link message that follows would be read past the end.
      by_contra hlong
      obtain ⟨⟨linkCode, lmSize⟩, hheader⟩ :=
        LinkMessage.readHeader_run (bytes.drop 4) (by rw [List.length_drop]; omega)
      have hread : Loop.ReadsTo ⟨messageSize - 16, bytes.drop 4⟩ ((bytes.drop 4).drop 4) :=
        Loop.readsTo_iff.mpr ⟨by rw [hsub]; omega, linkCode, lmSize, _, hheader, 0,
          fun hpos => absurd hpos (lt_irrefl 0), Nat.zero_le _, rfl⟩
      have hpassed := h _ _ _ (starts_iff.mpr ⟨Or.inl hsmall, by omega, rfl⟩) .refl hread
      rw [List.length_drop, List.length_drop, olsrMsgHeaderSize] at hpassed
      omega
    · intro hlarge
      have hleft : (messageSize - 16).toNat = messageSize.toNat - 16 := by omega
      by_cases hshort : bytes.length < 4
      · refine .cut ?_
        rw [List.length_drop]
        omega
      have hwithin : Loop.Within ⟨messageSize - 16, bytes.drop 4⟩ := by
        intro s' rest hrounds hread
        have hend := h _ s' rest (starts_iff.mpr ⟨Or.inr hlarge, by omega, rfl⟩) hrounds hread
        rw [olsrMsgHeaderSize] at hend
        simp only [hleft, List.length_drop]
        omega
      have hfits := Loop.sizesFit_of_within hwithin
      rwa [hleft] at hfits
  · rintro ⟨hsmall, hlarge⟩ s s' rest hstarts hrounds hread
    obtain ⟨hsize, hlength, rfl⟩ := starts_iff.mp hstarts
    rw [olsrMsgHeaderSize]
    obtain hunder | hover := hsize
    · -- There are too few bytes even for the header of a link message.
      obtain ⟨k, hk⟩ := Loop.length_of_rounds hrounds
      obtain ⟨-, linkCode, lmSize, behind, hheader, -⟩ := hread
      obtain ⟨k', hk', rfl⟩ := LinkMessage.readHeader_takes _ _ _ hheader
      have := hsmall hunder
      rw [List.length_drop] at hk
      omega
    · have hleft : (messageSize - 16).toNat = messageSize.toNat - 16 := by omega
      have hend := Loop.within_of_sizesFit (hlarge hover) hleft rfl s' rest hrounds hread
      rw [hleft, List.length_drop] at hend
      omega

/-- Every round takes bytes off the buffer, so that there is no run of them without an end. -/
lemma not_infinite_rounds (f : ℕ → Loop) (h : ∀ n, (f n).Round (f (n + 1))) : False := by
  have hshorter : ∀ n, (f n).bytes.length + n ≤ (f 0).bytes.length := by
    intro n
    induction n with
    | zero => exact le_rfl
    | succ n ih =>
      obtain ⟨k, hk, hlength⟩ := (h n).length
      omega
  have := hshorter ((f 0).bytes.length + 1)
  omega

/-- The fixed bytes, and the loop behind them. -/
lemma deserialize_cons {messageSize : UInt16} (h : 4 ≤ bodySize messageSize)
    (b b' hTime willingness : UInt8) (bytes : List UInt8) :
    (deserialize (bodySize messageSize)).run (b :: b' :: hTime :: willingness :: bytes) =
      ((readLinkMessages bytes.length ((bodySize messageSize).toUInt16 - 4)).run bytes).map fun y =>
        ((⟨hTime, willingness, y.1⟩, (bodySize messageSize).toNat), y.2) := by
  rw [deserialize, assert, if_pos h, Option.map_eq_bind]
  rfl

/-- A HELLO message that has been read is what the loop has read, from where it begins. -/
lemma deserialize_run {messageSize : UInt16} {bytes rest : List UInt8} {hello : Hello} {size : ℕ}
    (h : (deserialize (bodySize messageSize)).run bytes = some ((hello, size), rest)) :
    ∃ s, Starts messageSize bytes s ∧
      (readLinkMessages s.bytes.length s.helloSizeLeft).run s.bytes =
        some (hello.linkMessages, rest) := by
  by_cases hfour : 4 ≤ bodySize messageSize
  case neg =>
    rw [deserialize, assert, if_neg hfour] at h
    cases h
  rcases bytes with _ | ⟨b, _ | ⟨b', _ | ⟨hTime, _ | ⟨willingness, bytes⟩⟩⟩⟩
  case cons.cons.cons.cons =>
    rw [deserialize_cons hfour] at h
    obtain ⟨⟨linkMessages, rest'⟩, hloop, heq⟩ := Option.map_eq_some_iff.mp h
    cases heq
    exact ⟨_, ⟨hfour, by simp only [List.length_cons]; omega, rfl⟩, hloop⟩
  -- the fixed bytes are not all there
  all_goals
    rw [deserialize, assert, if_pos hfour] at h
    cases h

/-- What is read has taken as many bytes as it would be written in; if the iterator stays within the
message, there is nothing left for the counter to wrap around. -/
lemma exact_of_staysWithin {messageSize : UInt16} {bytes rest : List UInt8} {hello : Hello}
    {size : ℕ} (hwithin : StaysWithin messageSize bytes)
    (h : (deserialize (bodySize messageSize)).run bytes = some ((hello, size), rest)) :
    olsrMsgHeaderSize + hello.getSerializedSize = messageSize.toNat ∧
      olsrMsgHeaderSize + bytes.length = messageSize.toNat + rest.length := by
  obtain ⟨s, hstarts, hloop⟩ := deserialize_run h
  obtain ⟨k, hk, hsum, hmod⟩ := readLinkMessages_takes _ _ _ _ _ hloop
  obtain ⟨hsize, hlength, rfl⟩ := starts_iff.mp hstarts
  have hlt := messageSize.toNat_lt
  have hsub : (messageSize - 16).toNat = (2 ^ 16 - 16 + messageSize.toNat) % 2 ^ 16 :=
    UInt16.toNat_sub _ _
  replace hmod : k % 2 ^ 16 = (messageSize - 16).toNat := hmod
  rw [List.length_drop] at hk
  rw [getSerializedSize, ← hsum, olsrMsgHeaderSize]
  rcases readsTo_of_run hloop with hzero | ⟨s', hrounds, hread⟩
  · -- The loop is over before its first round.
    have hnil := readLinkMessages_zero (bytes.drop 4).length (bytes.drop 4)
    rw [← hzero] at hnil
    obtain ⟨-, rfl⟩ := Prod.mk.inj (Option.some.inj (hloop.symm.trans hnil))
    rw [List.length_drop] at hk ⊢
    replace hzero : (messageSize - 16).toNat = 0 := congrArg UInt16.toNat hzero
    omega
  · have hend := hwithin _ s' rest hstarts hrounds hread
    rw [olsrMsgHeaderSize] at hend
    omega

/-- **Malformed HELLO.**  A HELLO message is parsed as it should be, or not read at all, exactly if its
size is not below that of its header and the sizes of its link messages fit into it. -/
theorem parsesExactly_iff (messageSize : UInt16) (bytes : List UInt8) :
    ParsesExactly messageSize bytes ↔ MessageFits messageSize bytes := by
  rw [← staysWithin_iff]
  constructor
  · intro h
    exact h.within
  · intro h
    exact {
      terminates := by
        rintro ⟨f, -, hrounds⟩
        exact not_infinite_rounds f hrounds
      progress := by
        intro s s' s'' _ _ hround
        obtain ⟨k, hk, hlength⟩ := hround.length
        omega
      exact := fun hello size rest hrun => exact_of_staysWithin h hrun
      within := h }

/-- The four fixed bytes, and a link message of eight bytes where four are left: its address is the
beginning of the next message. -/
def overlongLink : List UInt8 := [0, 0, 5, 3, 6, 0, 0, 8, 1, 0x86, 0, 24]

/-- The same with another link message behind it. -/
def wrappingLinks (lm : LinkMessage) : List LinkMessage := [⟨6, [0x01860018]⟩, lm]

/-- If that link message is as long as the counter has become, the loop ends with it. -/
lemma wrappingLinks_run {lm : LinkMessage} (h : lm.getSerializedSize = 65532) (rounds : ℕ) :
    (readLinkMessages (rounds + 2) 4).run
      ((wrappingLinks lm).flatMap LinkMessage.serialize) = some (wrappingLinks lm, []) := by
  have hfirst := LinkMessage.reads ⟨6, [0x01860018]⟩ (by decide) lm.serialize
  have hsecond := lm.reads (by rw [h]; decide) []
  rw [List.append_nil, h] at hsecond
  have hwrapped : (4 : UInt16) - UInt16.ofNat (LinkMessage.getSerializedSize ⟨6, [0x01860018]⟩) =
      UInt16.ofNat 65532 := by decide
  have hfour : 4 ≤ (UInt16.ofNat 65532).toNat := by decide
  rw [wrappingLinks, List.flatMap_cons, List.flatMap_singleton, readLinkMessages_succ (by decide),
    if_pos (by decide), hfirst, Option.bind_some, hwrapped, readLinkMessages_succ (by decide),
    if_pos hfour, hsecond, Option.bind_some, UInt16.sub_self, readLinkMessages_zero]
  rfl

/-- A message of eight bytes is read as one of more than 64 KiB. -/
lemma wrappingLinks_not_exact {lm : LinkMessage} (h : lm.getSerializedSize = 65532) :
    ¬ ParsesExactly 20 ([0, 0, 5, 3] ++ (wrappingLinks lm).flatMap LinkMessage.serialize) := by
  intro hexact
  obtain ⟨rounds, hrounds⟩ : ∃ rounds,
      ((wrappingLinks lm).flatMap LinkMessage.serialize).length = rounds + 2 := by
    rw [wrappingLinks, List.flatMap_cons, List.length_append]
    exact ⟨_, Nat.add_comm _ _⟩
  have hloop := wrappingLinks_run h rounds
  rw [← hrounds] at hloop
  have hrun : (deserialize (bodySize 20)).run
      ([0, 0, 5, 3] ++ (wrappingLinks lm).flatMap LinkMessage.serialize) =
        some ((⟨5, 3, wrappingLinks lm⟩, 8), []) := by
    rw [List.cons_append, List.cons_append, List.cons_append, List.cons_append, List.nil_append,
      deserialize_cons (by decide), show (bodySize 20).toUInt16 - 4 = 4 by decide, hloop]
    rfl
  have hsize := (hexact.exact _ _ _ hrun).1
  rw [getSerializedSize, wrappingLinks, List.map_cons, List.map_singleton, List.sum_cons,
    List.sum_singleton, h, olsrMsgHeaderSize] at hsize
  have htwenty : (20 : UInt16).toNat = 20 := rfl
  omega

theorem overlongLink_not_parsesExactly :
    ¬ ParsesExactly 20 overlongLink ∧
    ¬ ParsesExactly 20 ([0, 0, 5, 3] ++
      (wrappingLinks ⟨6, List.replicate 16382 0⟩).flatMap LinkMessage.serialize) := by
  constructor
  · intro h
    have hstarts : Starts 20 overlongLink ⟨4, overlongLink.drop 4⟩ := ⟨by decide, by decide, rfl⟩
    have hround : Loop.Round ⟨4, overlongLink.drop 4⟩ ⟨4 - 8, []⟩ :=
      ⟨le_rfl, (⟨6, [0x01860018]⟩, 8), rfl, rfl⟩
    have hpassed := h.within _ _ _ hstarts .refl hround.readsTo
    exact absurd hpassed (by decide)
  · refine wrappingLinks_not_exact ?_
    rw [LinkMessage.getSerializedSize, List.length_replicate, ipv4AddressSize]

end Hello

end ManetOlsr
