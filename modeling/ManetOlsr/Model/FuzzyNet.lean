/-
The rules of the fuzzy Petri net of the FPNT defense.

The two incidence matrices say which places a transition weighs and which it marks.  Read place by
place they are the rules R1 to R7: five conclusions from the evidence, and two verdicts from these
conclusions.  No rule reads a verdict, so the reasoning is over as soon as every rule has had its turn.
-/
import ManetOlsr.Model.FpntDefense
import Mathlib.Tactic.FinCases
import Mathlib.Tactic.Linarith

namespace ManetOlsr.OlsrDefenseFpnt

abbrev p9SeriousAttack : Fin numPlaces := 8
abbrev p10Jellyfish : Fin numPlaces := 9
abbrev p11RouteAttack : Fin numPlaces := 10
abbrev p12DataOk : Fin numPlaces := 11
abbrev p13RouteOk : Fin numPlaces := 12

/-- The test of `matrixOpThreshold`: what is at most the threshold has no effect. -/
def fireAbove (threshold x : ℚ) : ℚ := if x > threshold then x else 0

/-- The test as Definition 5 puts it: only what is below the threshold has no effect. -/
def fireFrom (threshold x : ℚ) : ℚ := if x ≥ threshold then x else 0

/-! ### The rules -/

section Rules

variable (fire : ℚ → ℚ → ℚ) (s : Marking)

/-- R1, a competition of three transitions. -/
def ruleSeriousAttack : ℚ :=
  max (9/10 * fire (2/5) (s p1LoadHigh))
    (max (9/10 * fire (2/5) (s p4FwdLow)) (3/5 * fire (1/2) (s p5DelayHigh)))

/-- R2. -/
def ruleJellyfish : ℚ := 4/5 * fire (1/2) (3/5 * s p2LoadLow + 2/5 * s p5DelayHigh)

/-- R3. -/
def ruleRouteAttack : ℚ := 9/10 * fire (1/2) (s p7RouteBad)

/-- R4. -/
def ruleDataOk : ℚ :=
  9/10 * fire (7/10) (1/10 * s p2LoadLow + 3/5 * s p3FwdHigh + 3/10 * s p6DelayLow)

/-- R5. -/
def ruleRouteOk : ℚ := fire (4/5) (s p8RouteOk)

/-- R6, another competition. -/
def ruleDistrust : ℚ :=
  max (9/10 * fire (2/5) (s p9SeriousAttack))
    (max (7/10 * fire (2/5) (s p10Jellyfish)) (9/10 * fire (2/5) (s p11RouteAttack)))

/-- R7. -/
def ruleTrust : ℚ := 9/10 * fire (3/5) (1/2 * s p12DataOk + 1/2 * s p13RouteOk)

/-- What all rules conclude from a marking. -/
def conclude : Marking :=
  ![0, 0, 0, 0, 0, 0, 0, 0, ruleSeriousAttack fire s, ruleJellyfish fire s, ruleRouteAttack fire s,
    ruleDataOk fire s, ruleRouteOk fire s, ruleDistrust fire s, ruleTrust fire s]

/-- The evidence and the five conclusions from it. -/
def intermediate : Marking :=
  ![s 0, s 1, s 2, s 3, s 4, s 5, s 6, s 7, ruleSeriousAttack fire s, ruleJellyfish fire s,
    ruleRouteAttack fire s, ruleDataOk fire s, ruleRouteOk fire s, 0, 0]

/-- **The closed form**: the rules in their order, each of them once. -/
def closedForm : Marking :=
  ![s 0, s 1, s 2, s 3, s 4, s 5, s 6, s 7, ruleSeriousAttack fire s, ruleJellyfish fire s,
    ruleRouteAttack fire s, ruleDataOk fire s, ruleRouteOk fire s,
    ruleDistrust fire (intermediate fire s), ruleTrust fire (intermediate fire s)]

lemma closedForm_distrust : closedForm fire s p14Distrust =
    max (9/10 * fire (2/5) (ruleSeriousAttack fire s))
      (max (7/10 * fire (2/5) (ruleJellyfish fire s))
        (9/10 * fire (2/5) (ruleRouteAttack fire s))) := rfl

lemma closedForm_trust : closedForm fire s p15Trust =
    9/10 * fire (3/5) (1/2 * ruleDataOk fire s + 1/2 * ruleRouteOk fire s) := rfl

/-- No rule reads a verdict. -/
lemma ruleDistrust_closedForm :
    ruleDistrust fire (closedForm fire s) = ruleDistrust fire (intermediate fire s) := by
  have hserious : closedForm fire s p9SeriousAttack = ruleSeriousAttack fire s := rfl
  have hserious' : intermediate fire s p9SeriousAttack = ruleSeriousAttack fire s := rfl
  have hjellyfish : closedForm fire s p10Jellyfish = ruleJellyfish fire s := rfl
  have hjellyfish' : intermediate fire s p10Jellyfish = ruleJellyfish fire s := rfl
  have hroute : closedForm fire s p11RouteAttack = ruleRouteAttack fire s := rfl
  have hroute' : intermediate fire s p11RouteAttack = ruleRouteAttack fire s := rfl
  rw [ruleDistrust, ruleDistrust, hserious, hserious', hjellyfish, hjellyfish', hroute, hroute']

lemma ruleTrust_closedForm :
    ruleTrust fire (closedForm fire s) = ruleTrust fire (intermediate fire s) := by
  have hdata : closedForm fire s p12DataOk = ruleDataOk fire s := rfl
  have hdata' : intermediate fire s p12DataOk = ruleDataOk fire s := rfl
  have hroute : closedForm fire s p13RouteOk = ruleRouteOk fire s := rfl
  have hroute' : intermediate fire s p13RouteOk = ruleRouteOk fire s := rfl
  rw [ruleTrust, ruleTrust, hdata, hdata', hroute, hroute']

end Rules

/-! ### The threshold -/

lemma fireAbove_nonneg {threshold : ℚ} (hthreshold : 0 ≤ threshold) (x : ℚ) :
    0 ≤ fireAbove threshold x := by
  rw [fireAbove]
  split
  · next hfires => exact hthreshold.trans hfires.le
  · exact le_rfl

lemma fireAbove_le {threshold x : ℚ} (hx : 0 ≤ x) : fireAbove threshold x ≤ x := by
  rw [fireAbove]
  split
  · exact le_rfl
  · exact hx

/-- More truth does not fire less. -/
lemma fireAbove_mono {threshold : ℚ} (hthreshold : 0 ≤ threshold) :
    Monotone (fireAbove threshold) := by
  intro x y hle
  rw [fireAbove]
  split
  · next hfires => rw [fireAbove, if_pos (hfires.trans_le hle)]; exact hle
  · exact fireAbove_nonneg hthreshold y

/-! ### The arcs of the net -/

/-- The entries of a row that are not zero. -/
def arcs {n : ℕ} (w : Fin n → ℚ) : List (Fin n × ℚ) :=
  (List.finRange n).filterMap fun i => if w i = 0 then none else some (i, w i)

/-- The input that arcs weigh. -/
def weigh {n : ℕ} (l : List (Fin n × ℚ)) (x : Fin n → ℚ) : ℚ := (l.map fun a => a.2 * x a.1).sum

/-- The best that arcs bring. -/
def compete {n : ℕ} (l : List (Fin n × ℚ)) (x : Fin n → ℚ) : ℚ :=
  (l.map fun a => a.2 * x a.1).foldl max 0

lemma sum_eq_weigh {n : ℕ} (w x : Fin n → ℚ) : ∑ i, w i * x i = weigh (arcs w) x := by
  rw [Fin.sum_univ_def, weigh, arcs]
  induction List.finRange n with
  | nil => rfl
  | cons i l ih =>
    rw [List.map_cons, List.sum_cons, ih, List.filterMap_cons]
    by_cases hi : w i = 0
    · rw [if_pos hi, hi, zero_mul, zero_add]
    · rw [if_neg hi]
      rfl

lemma matrixOpWeightedMax_eq_compete (u : Fin numPlaces → Fin numTransitions → ℚ)
    (g : Fin numTransitions → ℚ) (p : Fin numPlaces) :
    matrixOpWeightedMax u g p = compete (arcs (u p)) g := by
  have hstep : ∀ m x : ℚ, (if x > m then x else m) = max m x := by
    intro m x
    split
    · next hlt => exact (max_eq_right hlt.le).symm
    · next hle => exact (max_eq_left (not_lt.mp hle)).symm
  -- The running maximum is never negative, so that the zeros do not change it.
  have hloop : ∀ (l : List (Fin numTransitions)) (m : ℚ), 0 ≤ m →
      l.foldl (fun m r => max m (u p r * g r)) m =
        ((l.filterMap fun r => if u p r = 0 then none else some (r, u p r)).map
          fun a => a.2 * g a.1).foldl max m := by
    intro l
    induction l with
    | nil => exact fun _ _ => rfl
    | cons r l ih =>
      intro m hm
      rw [List.foldl_cons, List.filterMap_cons, ih _ (hm.trans (le_max_left _ _))]
      by_cases hr : u p r = 0
      · rw [if_pos hr, hr, zero_mul, max_eq_left hm]
      · rw [if_neg hr]
        rfl
  simp only [matrixOpWeightedMax, hstep]
  exact hloop _ 0 le_rfl

/-- Which places each transition weighs, and how much. -/
lemma arcs_wT : (fun r => arcs (wT r)) =
    ![[(p1LoadHigh, 1)], [(p4FwdLow, 1)], [(p5DelayHigh, 1)],
      [(p2LoadLow, 3/5), (p5DelayHigh, 2/5)], [(p7RouteBad, 1)],
      [(p2LoadLow, 1/10), (p3FwdHigh, 3/5), (p6DelayLow, 3/10)], [(p8RouteOk, 1)],
      [(p9SeriousAttack, 1)], [(p10Jellyfish, 1)], [(p11RouteAttack, 1)],
      [(p12DataOk, 1/2), (p13RouteOk, 1/2)]] := by
  decide +kernel

/-- Which transitions mark each place, and how much. -/
lemma arcs_uMat : (fun p => arcs (uMat p)) =
    ![[], [], [], [], [], [], [], [], [(0, 9/10), (1, 9/10), (2, 3/5)], [(3, 4/5)], [(4, 9/10)],
      [(5, 9/10)], [(6, 1)], [(7, 9/10), (8, 7/10), (9, 9/10)], [(10, 9/10)]] := by
  decide +kernel

/-! ### One round -/

/-- The input of each transition. -/
lemma sum_wT_mul (s : Marking) : (fun r => ∑ p, wT r p * s p) =
    ![s p1LoadHigh, s p4FwdLow, s p5DelayHigh, 3/5 * s p2LoadLow + 2/5 * s p5DelayHigh,
      s p7RouteBad, 1/10 * s p2LoadLow + 3/5 * s p3FwdHigh + 3/10 * s p6DelayLow, s p8RouteOk,
      s p9SeriousAttack, s p10Jellyfish, s p11RouteAttack,
      1/2 * s p12DataOk + 1/2 * s p13RouteOk] := by
  have hone : ∀ p, weigh [(p, 1)] s = s p := fun p => by simp [weigh]
  have htwo : ∀ p q a b, weigh [(p, a), (q, b)] s = a * s p + b * s q := fun p q a b => by
    simp [weigh]
  have hthree : ∀ p q r a b c, weigh [(p, a), (q, b), (r, c)] s = a * s p + b * s q + c * s r :=
    fun p q r a b c => by simp [weigh, add_assoc]
  have hweigh : (fun r => ∑ p, wT r p * s p) = fun r => weigh ((fun r => arcs (wT r)) r) s :=
    funext fun r => sum_eq_weigh (wT r) s
  rw [hweigh, arcs_wT]
  funext r
  fin_cases r
  exacts [hone _, hone _, hone _, htwo _ _ _ _, hone _, hthree _ _ _ _ _ _, hone _, hone _, hone _,
    hone _, htwo _ _ _ _]

/-- What the transitions mark. -/
lemma matrixOpWeightedMax_uMat {g : Fin numTransitions → ℚ} (hg : ∀ r, 0 ≤ g r) :
    matrixOpWeightedMax uMat g =
      ![0, 0, 0, 0, 0, 0, 0, 0, max (9/10 * g 0) (max (9/10 * g 1) (3/5 * g 2)), 4/5 * g 3,
        9/10 * g 4, 9/10 * g 5, g 6, max (9/10 * g 7) (max (7/10 * g 8) (9/10 * g 9)),
        9/10 * g 10] := by
  have hone : ∀ r a, 0 ≤ a → compete [(r, a)] g = a * g r := fun r a ha =>
    max_eq_right (mul_nonneg ha (hg r))
  have hthree : ∀ r q t a b c, 0 ≤ a → compete [(r, a), (q, b), (t, c)] g =
      max (a * g r) (max (b * g q) (c * g t)) := by
    intro r q t a b c ha
    show max (max (max 0 (a * g r)) (b * g q)) (c * g t) = _
    rw [max_eq_right (mul_nonneg ha (hg r)), max_assoc]
  have hcompete : matrixOpWeightedMax uMat g = fun p => compete ((fun p => arcs (uMat p)) p) g :=
    funext fun p => matrixOpWeightedMax_eq_compete uMat g p
  rw [hcompete, arcs_uMat]
  funext p
  fin_cases p
  case «8» => exact hthree _ _ _ _ _ _ (by norm_num)
  case «13» => exact hthree _ _ _ _ _ _ (by norm_num)
  case «12» => exact (hone _ _ (by norm_num)).trans (one_mul _)
  all_goals first
    | rfl
    | exact hone _ _ (by norm_num)

/-- A round adds what the rules conclude. -/
lemma fpnNext_eq (s : Marking) : fpnNext s = fun p => max (s p) (conclude fireAbove s p) := by
  have hinputs : matrixOpThreshold (fun r => ∑ p, wT r p * s p) th =
      fun r => fireAbove (th r) ((fun r => ∑ p, wT r p * s p) r) := rfl
  have hthreshold : ∀ r, 0 ≤ th r := by decide +kernel
  rw [fpnNext, hinputs, sum_wT_mul, matrixOpWeightedMax_uMat fun r =>
    fireAbove_nonneg (hthreshold r) _]
  rfl

/-! ### The marking in which the reasoning ends -/

/-- A marking that the rules have not touched. -/
structure IsInitial (s : Marking) : Prop where
  unit : ∀ p, 0 ≤ s p ∧ s p ≤ 1
  blank : ∀ p, 8 ≤ p → s p = 0

lemma conclude_nonneg (s : Marking) (p : Fin numPlaces) : 0 ≤ conclude fireAbove s p := by
  have hscaled : ∀ c threshold x : ℚ, 0 ≤ c → 0 ≤ threshold → 0 ≤ c * fireAbove threshold x :=
    fun c threshold x hc hthreshold => mul_nonneg hc (fireAbove_nonneg hthreshold x)
  have hserious : 0 ≤ ruleSeriousAttack fireAbove s :=
    le_max_of_le_left (hscaled _ _ _ (by norm_num) (by norm_num))
  have hjellyfish : 0 ≤ ruleJellyfish fireAbove s := hscaled _ _ _ (by norm_num) (by norm_num)
  have hroute : 0 ≤ ruleRouteAttack fireAbove s := hscaled _ _ _ (by norm_num) (by norm_num)
  have hdataOk : 0 ≤ ruleDataOk fireAbove s := hscaled _ _ _ (by norm_num) (by norm_num)
  have hrouteOk : 0 ≤ ruleRouteOk fireAbove s := fireAbove_nonneg (by norm_num) _
  have hdistrust : 0 ≤ ruleDistrust fireAbove s :=
    le_max_of_le_left (hscaled _ _ _ (by norm_num) (by norm_num))
  have htrust : 0 ≤ ruleTrust fireAbove s := hscaled _ _ _ (by norm_num) (by norm_num)
  fin_cases p
  exacts [le_rfl, le_rfl, le_rfl, le_rfl, le_rfl, le_rfl, le_rfl, le_rfl, hserious, hjellyfish,
    hroute, hdataOk, hrouteOk, hdistrust, htrust]

section Rounds

variable {s : Marking}

/-- The first round draws the conclusions from the evidence; the verdicts have nothing to go by. -/
lemma IsInitial.fpnNext_eq_intermediate (hs : IsInitial s) :
    fpnNext s = intermediate fireAbove s := by
  have hevidence : ∀ p, max (s p) 0 = s p := fun p => max_eq_left (hs.unit p).1
  have hblank : ∀ p, 8 ≤ p → ∀ x, 0 ≤ x → max (s p) x = x := by
    intro p hp x hx
    rw [hs.blank p hp, max_eq_right hx]
  have hidle : ∀ threshold : ℚ, 0 ≤ threshold → fireAbove threshold 0 = 0 := fun threshold hle =>
    le_antisymm (fireAbove_le le_rfl) (fireAbove_nonneg hle 0)
  have hdistrust : ruleDistrust fireAbove s = 0 := by
    rw [ruleDistrust, hs.blank p9SeriousAttack (by decide), hs.blank p10Jellyfish (by decide),
      hs.blank p11RouteAttack (by decide), hidle _ (by norm_num), mul_zero, mul_zero, max_self,
      max_self]
  have htrust : ruleTrust fireAbove s = 0 := by
    rw [ruleTrust, hs.blank p12DataOk (by decide), hs.blank p13RouteOk (by decide), mul_zero,
      add_zero, hidle _ (by norm_num), mul_zero]
  rw [fpnNext_eq]
  funext p
  fin_cases p
  exacts [hevidence 0, hevidence 1, hevidence 2, hevidence 3, hevidence 4, hevidence 5, hevidence 6,
    hevidence 7,
    hblank 8 (by decide) (ruleSeriousAttack fireAbove s) (conclude_nonneg s 8),
    hblank 9 (by decide) (ruleJellyfish fireAbove s) (conclude_nonneg s 9),
    hblank 10 (by decide) (ruleRouteAttack fireAbove s) (conclude_nonneg s 10),
    hblank 11 (by decide) (ruleDataOk fireAbove s) (conclude_nonneg s 11),
    hblank 12 (by decide) (ruleRouteOk fireAbove s) (conclude_nonneg s 12),
    (hblank 13 (by decide) (ruleDistrust fireAbove s) (conclude_nonneg s 13)).trans hdistrust,
    (hblank 14 (by decide) (ruleTrust fireAbove s) (conclude_nonneg s 14)).trans htrust]

/-- The second round comes to the verdicts. -/
lemma IsInitial.fpnNext_intermediate (hs : IsInitial s) :
    fpnNext (intermediate fireAbove s) = closedForm fireAbove s := by
  have hevidence : ∀ p, max (s p) 0 = s p := fun p => max_eq_left (hs.unit p).1
  rw [fpnNext_eq]
  funext p
  fin_cases p
  exacts [hevidence 0, hevidence 1, hevidence 2, hevidence 3, hevidence 4, hevidence 5, hevidence 6,
    hevidence 7, max_self (ruleSeriousAttack fireAbove s), max_self (ruleJellyfish fireAbove s),
    max_self (ruleRouteAttack fireAbove s), max_self (ruleDataOk fireAbove s),
    max_self (ruleRouteOk fireAbove s),
    max_eq_right (b := ruleDistrust fireAbove (intermediate fireAbove s))
      (conclude_nonneg (intermediate fireAbove s) 13),
    max_eq_right (b := ruleTrust fireAbove (intermediate fireAbove s))
      (conclude_nonneg (intermediate fireAbove s) 14)]

/-- The third round finds nothing to add. -/
lemma IsInitial.fpnNext_closedForm (hs : IsInitial s) :
    fpnNext (closedForm fireAbove s) = closedForm fireAbove s := by
  have hevidence : ∀ p, max (s p) 0 = s p := fun p => max_eq_left (hs.unit p).1
  rw [fpnNext_eq]
  funext p
  fin_cases p
  exacts [hevidence 0, hevidence 1, hevidence 2, hevidence 3, hevidence 4, hevidence 5, hevidence 6,
    hevidence 7, max_self (ruleSeriousAttack fireAbove s), max_self (ruleJellyfish fireAbove s),
    max_self (ruleRouteAttack fireAbove s), max_self (ruleDataOk fireAbove s),
    max_self (ruleRouteOk fireAbove s),
    (congrArg (max _) (ruleDistrust_closedForm fireAbove s)).trans
      (max_self (ruleDistrust fireAbove (intermediate fireAbove s))),
    (congrArg (max _) (ruleTrust_closedForm fireAbove s)).trans
      (max_self (ruleTrust fireAbove (intermediate fireAbove s)))]

/-- A loop that comes to a marking which a round does not change ends there. -/
lemma fpnLoop_of_fixed {n fuel : ℕ} (hfixed : fpnNext (fpnNext^[n] s) = fpnNext^[n] s)
    (hn : n < fuel) : Lib.whileLoop (fun x => !x.converged) fpnRound fuel { s := s } =
      { s := fpnNext^[n] s, converged := true } := by
  induction n generalizing s fuel with
  | zero =>
    obtain ⟨fuel, rfl⟩ := Nat.exists_eq_succ_of_ne_zero hn.ne'
    have hround : fpnRound { s := s } = { s := s, converged := true } := if_pos hfixed
    rw [Lib.whileLoop_of_true rfl, hround]
    exact Lib.whileLoop_of_false rfl fuel
  | succ n ih =>
    obtain ⟨fuel, rfl⟩ := Nat.exists_eq_succ_of_ne_zero (Nat.ne_zero_of_lt hn)
    rw [Lib.whileLoop_of_true rfl, fpnRound]
    by_cases hearly : fpnNext s = s
    · -- The loop has come to its end before.
      have hstays : fpnNext^[n + 1] s = s := Function.iterate_fixed hearly (n + 1)
      rw [if_pos hearly, hstays]
      exact Lib.whileLoop_of_false rfl fuel
    · rw [if_neg hearly]
      exact ih hfixed (Nat.lt_of_succ_lt_succ hn)

lemma IsInitial.iterate_two (hs : IsInitial s) : fpnNext^[2] s = closedForm fireAbove s := by
  rw [Function.iterate_succ_apply, Function.iterate_one, hs.fpnNext_eq_intermediate,
    hs.fpnNext_intermediate]

/-- The loop of `RunFuzzyPetriNet`. -/
def fpnLoop (s : Marking) : FpnLoop :=
  Lib.whileLoop (fun x => !x.converged) fpnRound maxFpnIterations { s := s }

/-- **The loop computes the closed form**, and notices that it has. -/
theorem IsInitial.fpnLoop_eq (hs : IsInitial s) :
    fpnLoop s = { s := closedForm fireAbove s, converged := true } := by
  rw [← hs.iterate_two]
  refine fpnLoop_of_fixed ?_ (by decide)
  rw [hs.iterate_two, hs.fpnNext_closedForm]

/-! ### The bytes -/

/-- The trust, the distrust and the uncertainty of a marking, before they are rounded. -/
def verdict (s : Marking) : ℚ × ℚ × ℚ :=
  if s p15Trust + s p14Distrust < 1 then
    (s p15Trust, s p14Distrust, 1 - s p15Trust - s p14Distrust)
  else (s p15Trust, 1 - s p15Trust, 0)

lemma runFuzzyPetriNet_eq (s : Marking) : runFuzzyPetriNet s =
    ⟨roundByte ((verdict (fpnLoop s).s).1 * 255), roundByte ((verdict (fpnLoop s).s).2.1 * 255),
      roundByte ((verdict (fpnLoop s).s).2.2 * 255)⟩ := by
  have hloop : (Lib.whileLoop (fun x => !x.converged) fpnRound maxFpnIterations { s := s }).s =
      (fpnLoop s).s := by
    rw [fpnLoop]
  simp only [runFuzzyPetriNet, hloop, verdict]
  generalize (fpnLoop s).s p15Trust = trust
  generalize (fpnLoop s).s p14Distrust = distrust
  split
  · rfl
  · simp only [zero_mul]

/-- A byte holds what is rounded, to a half. -/
lemma roundByte_spec {x : ℚ} (hx : 0 ≤ x) (hx' : x ≤ 255) :
    |((roundByte x).toNat : ℚ) - x| ≤ 1 / 2 := by
  have hnonneg : (0 : ℚ) ≤ x + 1 / 2 := by linarith
  have hle := Nat.floor_le hnonneg
  have hlt := Nat.lt_floor_add_one (x + 1 / 2)
  have hbyte : ⌊x + 1 / 2⌋₊ < 256 := by
    rw [Nat.floor_lt hnonneg]
    push_cast
    linarith
  have hvalue : (roundByte x).toNat = ⌊x + 1 / 2⌋₊ := by
    rw [roundByte, UInt8.toNat_ofNat', Nat.mod_eq_of_lt hbyte]
  rw [hvalue, abs_le]
  constructor <;> linarith

/-- A degree of truth does not grow where it passes a transition. -/
lemma mul_fireAbove_mem {weight threshold x : ℚ} (hweight : 0 ≤ weight ∧ weight ≤ 1)
    (hthreshold : 0 ≤ threshold) (hx : 0 ≤ x ∧ x ≤ 1) :
    0 ≤ weight * fireAbove threshold x ∧ weight * fireAbove threshold x ≤ 1 := by
  have hfire := fireAbove_nonneg hthreshold x
  refine ⟨mul_nonneg hweight.1 hfire, ?_⟩
  exact mul_le_one₀ hweight.2 hfire ((fireAbove_le hx.1).trans hx.2)

lemma max_mem {x y : ℚ} (hx : 0 ≤ x ∧ x ≤ 1) (hy : 0 ≤ y ∧ y ≤ 1) :
    0 ≤ max x y ∧ max x y ≤ 1 :=
  ⟨le_max_of_le_left hx.1, max_le hx.2 hy.2⟩

/-- The verdicts are degrees of truth. -/
lemma IsInitial.closedForm_mem (hs : IsInitial s) :
    (0 ≤ closedForm fireAbove s p14Distrust ∧ closedForm fireAbove s p14Distrust ≤ 1) ∧
      0 ≤ closedForm fireAbove s p15Trust ∧ closedForm fireAbove s p15Trust ≤ 1 := by
  have hp2 := hs.unit p2LoadLow
  have hp3 := hs.unit p3FwdHigh
  have hp5 := hs.unit p5DelayHigh
  have hp6 := hs.unit p6DelayLow
  have hserious : 0 ≤ ruleSeriousAttack fireAbove s ∧ ruleSeriousAttack fireAbove s ≤ 1 :=
    max_mem (mul_fireAbove_mem (by norm_num) (by norm_num) (hs.unit p1LoadHigh))
      (max_mem (mul_fireAbove_mem (by norm_num) (by norm_num) (hs.unit p4FwdLow))
        (mul_fireAbove_mem (by norm_num) (by norm_num) hp5))
  have hjellyfish : 0 ≤ ruleJellyfish fireAbove s ∧ ruleJellyfish fireAbove s ≤ 1 :=
    mul_fireAbove_mem (by norm_num) (by norm_num) (by constructor <;> linarith)
  have hroute : 0 ≤ ruleRouteAttack fireAbove s ∧ ruleRouteAttack fireAbove s ≤ 1 :=
    mul_fireAbove_mem (by norm_num) (by norm_num) (hs.unit p7RouteBad)
  have hdataOk : 0 ≤ ruleDataOk fireAbove s ∧ ruleDataOk fireAbove s ≤ 1 :=
    mul_fireAbove_mem (by norm_num) (by norm_num) (by constructor <;> linarith)
  have hrouteOk : 0 ≤ ruleRouteOk fireAbove s ∧ ruleRouteOk fireAbove s ≤ 1 := by
    have hfire : ruleRouteOk fireAbove s ≤ s p8RouteOk := fireAbove_le (hs.unit p8RouteOk).1
    exact ⟨fireAbove_nonneg (by norm_num) _, hfire.trans (hs.unit p8RouteOk).2⟩
  rw [closedForm_distrust, closedForm_trust]
  constructor
  · exact max_mem (mul_fireAbove_mem (by norm_num) (by norm_num) hserious)
      (max_mem (mul_fireAbove_mem (by norm_num) (by norm_num) hjellyfish)
        (mul_fireAbove_mem (by norm_num) (by norm_num) hroute))
  · exact mul_fireAbove_mem (by norm_num) (by norm_num) (by constructor <;> linarith)

end Rounds

/-! ### The evidence -/

section Evidence

variable {s : Marking}

/-- The evidence can be set to any degree of truth. -/
lemma IsInitial.update (hs : IsInitial s) {p : Fin numPlaces} (hp : p < 8) {x : ℚ}
    (hx : 0 ≤ x ∧ x ≤ 1) : IsInitial (Function.update s p x) := by
  constructor
  · intro q
    rcases eq_or_ne q p with rfl | hne
    · rwa [Function.update_self]
    · rw [Function.update_of_ne hne]
      exact hs.unit q
  · intro q hq
    have hne : q ≠ p := by
      rintro rfl
      exact absurd hp (not_lt.mpr hq)
    rw [Function.update_of_ne hne]
    exact hs.blank q hq

lemma clamp_mem (x : ℚ) : 0 ≤ clamp x 0 1 ∧ clamp x 0 1 ≤ 1 := by
  rw [clamp]
  split
  · norm_num
  · next hlo =>
    split
    · norm_num
    · next hhi => exact ⟨not_lt.mp hlo, not_lt.mp hhi⟩

lemma IsInitial.factor (hs : IsInitial s) {evidence : Option ℚ} {last : Option Marking}
    {high low : Fin numPlaces} (hhigh : high < 8) (hlow : low < 8)
    (hevidence : ∀ x ∈ evidence, 0 ≤ x ∧ x ≤ 1) (hlast : ∀ m ∈ last, IsInitial m) :
    IsInitial (factor evidence last high low s) := by
  cases evidence with
  | some x =>
    obtain ⟨hlo, hhi⟩ := hevidence x rfl
    exact (hs.update hhigh ⟨hlo, hhi⟩).update hlow (by constructor <;> linarith)
  | none =>
    cases last with
    | none => exact hs
    | some m => exact (hs.update hhigh ((hlast m rfl).unit high)).update hlow ((hlast m rfl).unit low)

/-- What the metrics say is evidence, and nothing else. -/
lemma metricsToS0_isInitial {d : OlsrDefenseFpnt} {addr : Ipv4Address}
    (hlast : ∀ m ∈ Lib.mapFind d.lastSValues addr, IsInitial m) (m : NodeBehaviorMetrics) :
    IsInitial (d.metricsToS0 addr m) := by
  have hzero : IsInitial fun _ => 0 := ⟨fun _ => ⟨le_rfl, zero_le_one⟩, fun _ _ => rfl⟩
  have hclamped : ∀ (p : Prop) [Decidable p] (y x : ℚ),
      x ∈ (if p then some (clamp y 0 1) else none) → 0 ≤ x ∧ x ≤ 1 := by
    intro p _ y x hx
    split at hx
    · rw [← Option.some.inj hx]
      exact clamp_mem y
    · cases hx
  have hbool : ∀ b : Bool, (0 ≤ (if b then (1 : ℚ) else 0) ∧ (if b then (1 : ℚ) else 0) ≤ 1) ∧
      0 ≤ (if b then (0 : ℚ) else 1) ∧ (if b then (0 : ℚ) else 1) ≤ 1 := by
    intro b
    cases b <;> norm_num
  simp only [metricsToS0]
  refine IsInitial.update (IsInitial.update ?_ (by decide) (hbool _).1) (by decide) (hbool _).2
  refine ((hzero.factor (by decide) (by decide) ?_ hlast).factor (by decide) (by decide) ?_
    hlast).factor (by decide) (by decide) ?_ hlast
  · exact hclamped _ _
  · exact hclamped _ _
  · exact hclamped _ _

end Evidence

end ManetOlsr.OlsrDefenseFpnt
