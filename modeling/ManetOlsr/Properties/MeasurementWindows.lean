/-
The windows of a run of the harness.

What comes up in a window is taken down in the row of its slot, and nothing else (`staged_rows`).  The
gates are passed or missed while nothing is in force, and a run that misses one stages nothing
(`rejected`).
-/
import ManetOlsr.Properties.ScenarioSlots

namespace ManetOlsr

open Lib

lemma labelsForScenario_scenarios : ∀ i, labelsForScenario (scenarios i).name =
    ((scenarios i).attackEnabled.toNat, (scenarios i).defenseEnabled.toNat) := by
  decide

/-! ### Windows -/

/-- What a window is about. -/
structure Window where
  features : FeatureCollector
  counters : OlsrCounters
  inWindow : Totals

namespace Window

/-- A window that has been opened. -/
def opened (tStart : ℚ) : Window where
  features := { winStart := tStart, winEnd := tStart }
  counters := {}
  inWindow := {}

/-- What a window takes down of the network.  There is no result where the collector aborts. -/
def record (headers : FrameHeaders) (w : Window) (x : Time × NetworkEvent) : Option Window :=
  match x.2 with
  | .node _ _ => some w
  | .sniffedByListener packet =>
    (w.features.observeSniffedFrame headers (getSeconds x.1) packet).map fun features =>
      { w with features := features }
  | .olsrPacketSent size messages =>
    some { w with counters := messages.foldl OlsrCounters.countMessage { w.counters with
      olsrControlBytesWithHello := w.counters.olsrControlBytesWithHello + size } }
  | .udpReceived => some { w with inWindow.udpReceived := w.inWindow.udpReceived + 1 }
  | .macTx => some { w with inWindow.macTx := w.inWindow.macTx + 1 }
  | .macTxDrop => some { w with inWindow.macDrop := w.inWindow.macDrop + 1 }

end Window

namespace Evaluation

variable {c : EvaluationConfig} {s : Evaluation}

/-- What the harness has taken down in the window that is open: the totals are compared with those
of its start. -/
def window (s : Evaluation) : Window where
  features := s.features
  counters := s.counters
  inWindow :=
    { udpReceived := s.totals.udpReceived - s.atWindowStart.udpReceived
      macTx := s.totals.macTx - s.atWindowStart.macTx
      macDrop := s.totals.macDrop - s.atWindowStart.macDrop }

/-- A window is open, and the totals have not sunk since its start. -/
structure Open (s : Evaluation) : Prop where
  featuresActive : s.featuresActive = true
  udpReceived : s.atWindowStart.udpReceived ≤ s.totals.udpReceived
  macTx : s.atWindowStart.macTx ≤ s.totals.macTx
  macDrop : s.atWindowStart.macDrop ≤ s.totals.macDrop

/-- An event of the network is taken down in the window that is open. -/
lemma network_window (h : s.Open) (t : Time) (e : NetworkEvent)
    (hcollected : (s.network c t e).aborted = false) :
    Window.record c.headers s.window (t, e) = some (s.network c t e).window ∧
      (s.network c t e).Open := by
  cases e with
  | node i a => exact ⟨rfl, { h with }⟩
  | sniffedByListener packet =>
    rw [network, if_neg (by simp [h.featuresActive])] at hcollected ⊢
    cases hobserved : s.features.observeSniffedFrame c.headers (getSeconds t) packet with
    | none =>
      rw [hobserved] at hcollected
      cases hcollected
    | some features =>
      refine ⟨?_, { h with }⟩
      simp only [Window.record, window, hobserved, Option.map_some]
  | olsrPacketSent size messages => exact ⟨rfl, { h with }⟩
  | udpReceived =>
    refine ⟨?_, { h with udpReceived := h.udpReceived.trans (Nat.le_succ _) }⟩
    simp only [Window.record, window, network, Nat.sub_add_comm h.udpReceived]
  | macTx =>
    refine ⟨?_, { h with macTx := h.macTx.trans (Nat.le_succ _) }⟩
    simp only [Window.record, window, network, Nat.sub_add_comm h.macTx]
  | macTxDrop =>
    refine ⟨?_, { h with macDrop := h.macDrop.trans (Nat.le_succ _) }⟩
    simp only [Window.record, window, network, Nat.sub_add_comm h.macDrop]

/-- What the handlers but those that open and close windows leave of the books. -/
structure SameBooks (s s' : Evaluation) : Prop where
  featuresActive : s'.featuresActive = s.featuresActive
  features : s'.features = s.features
  counters : s'.counters = s.counters
  totals : s'.totals = s.totals
  atWindowStart : s'.atWindowStart = s.atWindowStart
  staging : s'.staging = s.staging

lemma handle_sameBooks (s : Evaluation) (t : Time) {e : Handler} (he : e.isBracket = false) :
    s.SameBooks (s.handle c t e) := by
  cases e with
  | startSlot | endSlot => cases he
  | applyScenarioState k =>
    obtain ⟨_, _, _, h⟩ := s.applyScenarioState_eq (c := c) k
    rw [handle, h]
    exact ⟨rfl, rfl, rfl, rfl, rfl, rfl⟩
  | _ => exact ⟨rfl, rfl, rfl, rfl, rfl, rfl⟩

lemma network_totals (s : Evaluation) (t : Time) (e : NetworkEvent) :
    (s.network c t e).totals = s.totals.count (t, e) := by
  obtain ⟨_, _, _, _, h⟩ := s.network_eq (c := c) t e
  rw [h]

/-- What the harness has seen of the nodes: the paths, and the accusations. -/
def observed (s : Evaluation) : NodeContainer.PathCounts × DetectionSample := (s.paths, s.detection)

/-- Only the two handlers that look at the nodes change what has been seen. -/
lemma step_observed (s : Evaluation) {x : Time × (Handler ⊕ NetworkEvent)}
    (hpaths : x.2 ≠ .inl .observeAttackerOnPath)
    (hdetection : x.2 ≠ .inl .sampleDetectionAccuracy) : (s.step c x).observed = s.observed := by
  by_cases hgoes : s.Running
  · obtain ⟨t, e | e⟩ := x
    · rw [step_inl hgoes]
      cases e with
      | observeAttackerOnPath => exact absurd rfl hpaths
      | sampleDetectionAccuracy => exact absurd rfl hdetection
      | applyScenarioState k =>
        obtain ⟨_, _, _, h⟩ := s.applyScenarioState_eq (c := c) k
        rw [handle, h]
        rfl
      | startSlot k =>
        obtain ⟨_, _, _, _, h⟩ := s.startMeasurementWindow_eq t
        rw [handle, h]
        rfl
      | endSlot k =>
        obtain ⟨_, _, _, h⟩ := s.endMeasurementWindow_eq (c := c) _ _ _
        rw [handle, h]
        rfl
      | assertConnectivity | assertRouteExists => rfl
    · obtain ⟨_, _, _, _, h⟩ := s.network_eq (c := c) t e
      rw [step_inr hgoes, h]
      rfl
  · rw [step_of_not_running hgoes]

lemma SameBooks.window {s' : Evaluation} (h : s.SameBooks s') : s'.window = s.window := by
  simp only [Evaluation.window, h.features, h.counters, h.totals, h.atWindowStart]

lemma SameBooks.open {s' : Evaluation} (h : s.SameBooks s') (hopen : s.Open) : s'.Open where
  featuresActive := h.featuresActive.trans hopen.featuresActive
  udpReceived := by
    rw [h.totals, h.atWindowStart]
    exact hopen.udpReceived
  macTx := by
    rw [h.totals, h.atWindowStart]
    exact hopen.macTx
  macDrop := by
    rw [h.totals, h.atWindowStart]
    exact hopen.macDrop

end Evaluation

namespace EvaluationRun

variable {r : EvaluationRun}

/-- **Run lemma** for a window: as long as it stays open, what comes up is taken down. -/
lemma after_window {l items : List (Time × (Handler ⊕ NetworkEvent))} (hopen : (r.after l).Open)
    (hitems : ∀ x ∈ scheduledOf items, x.2.isBracket = false)
    (hrunning : (r.after (l ++ items)).Running) :
    (arisingOf items).foldlM (Window.record r.config.headers) (r.after l).window =
        some (r.after (l ++ items)).window ∧
      (r.after (l ++ items)).Open := by
  induction items using List.reverseRecOn with
  | nil =>
    rw [List.append_nil]
    exact ⟨rfl, hopen⟩
  | append_singleton items x ih =>
    rw [scheduledOf_append] at hitems
    rw [← List.append_assoc] at hrunning ⊢
    have hgoes := running_of_append hrunning
    obtain ⟨hold, hstill⟩ := ih (fun y hy => hitems y (List.mem_append_left _ hy)) hgoes
    rw [after_concat] at hrunning ⊢
    rw [arisingOf_append, List.foldlM_append, hold]
    obtain ⟨t, e | e⟩ := x
    · have he : e.isBracket = false :=
        hitems (t, e) (List.mem_append_right _ (mem_scheduledOf.mpr (List.mem_singleton_self _)))
      rw [Evaluation.step_inl hgoes]
      have hsame := (r.after (l ++ items)).handle_sameBooks (c := r.config) t he
      exact ⟨congrArg some hsame.window.symm, hsame.open hstill⟩
    · rw [Evaluation.step_inr hgoes] at hrunning ⊢
      obtain ⟨hrecord, hopen'⟩ := Evaluation.network_window hstill t e hrunning.2
      refine ⟨?_, hopen'⟩
      simpa [arisingOf] using hrecord

/-- The totals are those of all that has come up. -/
lemma after_totals {l : List (Time × (Handler ⊕ NetworkEvent))} (hrunning : (r.after l).Running) :
    (r.after l).totals = (arisingOf l).foldl Totals.count {} := by
  induction l using List.reverseRecOn with
  | nil => rfl
  | append_singleton l x ih =>
    have hgoes := running_of_append hrunning
    rw [after_concat, arisingOf_append, List.foldl_append, ← ih hgoes]
    obtain ⟨t, e | e⟩ := x
    · rw [Evaluation.step_inl hgoes]
      exact ((r.after l).handle_frame t e).2.1
    · rw [Evaluation.step_inr hgoes]
      exact (r.after l).network_totals t e

/-- What some events do not change is the same after them. -/
lemma after_keeps {β : Type} {g : Evaluation → β}
    {l items : List (Time × (Handler ⊕ NetworkEvent))}
    (hitems : ∀ x ∈ items, ∀ s : Evaluation, g (s.step r.config x) = g s) :
    g (r.after (l ++ items)) = g (r.after l) := by
  induction items using List.reverseRecOn with
  | nil => rw [List.append_nil]
  | append_singleton items x ih =>
    rw [← List.append_assoc, after_concat, hitems x (by simp)]
    exact ih fun y hy => hitems y (List.mem_append_left _ hy)

/-! ### Rows -/

/-- The rows that a slot stages: the names and labels of its scenario, what its window has taken down,
and what the harness has seen of the nodes in the window, with the scenario in force. -/
structure RowOf (r : EvaluationRun) (k : Fin 4) (row : WindowRow) : Prop where
  scenarioName : row.scenarioName = (r.config.scenario k).name
  windowStart : row.windowStart = slotWindowStart r.config.randomWindowOrder k
  windowEnd : row.windowEnd = slotWindowEnd r.config.randomWindowOrder k
  attackEnabled : row.attackEnabled = (r.config.scenario k).attackEnabled.toNat
  defenseEnabled : row.defenseEnabled = (r.config.scenario k).defenseEnabled.toNat
  numAttackers : row.numAttackers = countAttackers r.config.maliciousNodesList
  window : ∃ w : Window,
    (r.network.filter fun x => slotWindowStart r.config.randomWindowOrder k ≤ x.1 ∧
      x.1 < slotWindowEnd r.config.randomWindowOrder k).foldlM (Window.record r.config.headers)
        (Window.opened (getSeconds row.windowStart)) = some w ∧
    row.features = (w.features.emitFeatureCsv r.config.sqrt (getSeconds row.windowEnd)).2 ∧
    row.counters = w.counters ∧ row.inWindow = w.inWindow
  totals : row.totals = (r.network.filter fun x =>
    x.1 < slotWindowEnd r.config.randomWindowOrder k).foldl Totals.count {}
  attackerOnPath : ∃ before rest, r.timeline = before ++
      (row.windowStart + Seconds 2, .inl .observeAttackerOnPath) :: rest ∧
    InForce r.config (r.config.scenario k).attackEnabled (r.config.scenario k).defenseEnabled
      (r.after before).nodes ∧
    row.attackerOnPath = ((r.after before).container.observeAttackerOnPath
      (r.config.attackerIds.map UInt32.toNat) r.config.flowAddrPairs).attackerOnPath
  detection : ∃ before rest, r.timeline = before ++
      (row.windowEnd - 1000000, .inl .sampleDetectionAccuracy) :: rest ∧
    InForce r.config (r.config.scenario k).attackEnabled (r.config.scenario k).defenseEnabled
      (r.after before).nodes ∧
    row.detection = sampleDetectionAccuracy false (some (r.after before).sampledNodes)
      r.config.attackerIds

lemma slotIn_agendaBefore : ∀ random k,
    slotIn (agendaBefore random (slotWindowStart random k, .startSlot k)) = some k := by
  decide +kernel

/-- A slot puts its scenario in force, which then stays in force. -/
lemma inForce_of_slotIn {before rest : List (Time × (Handler ⊕ NetworkEvent))}
    (h : r.timeline = before ++ rest) (hrunning : (r.after before).Running) {k : Fin 4}
    (hslot : slotIn (scheduledOf before) = some k) :
    InForce r.config (r.config.scenario k).attackEnabled (r.config.scenario k).defenseEnabled
      (r.after before).nodes := by
  obtain ⟨hflags, hslots⟩ := after_inForce (isOwn_of_timeline h) hrunning
  rw [hslot] at hslots
  obtain ⟨hattack, hdefense⟩ := Prod.mk.inj hslots
  rw [Evaluation.FlagsInForce, hattack, hdefense] at hflags
  exact hflags

lemma slotIn_append {xs ys : List (Time × Handler)} (h : ∀ y ∈ ys, y.2.applies = none) :
    slotIn (xs ++ ys) = slotIn xs := by
  have hnone : ys.filterMap (fun x => x.2.applies) = [] := List.filterMap_eq_nil_iff.mpr h
  rw [slotIn, List.filterMap_append, hnone, List.append_nil, slotIn]

lemma mem_agenda_of_timeline {before rest : List (Time × (Handler ⊕ NetworkEvent))} {t : Time}
    {e : Handler} (h : r.timeline = before ++ (t, .inl e) :: rest) :
    (t, e) ∈ agenda r.config.randomWindowOrder := by
  have hall : scheduledOf r.timeline = agenda r.config.randomWindowOrder :=
    scheduledOf_timeline _ _
  rw [← hall, h, mem_scheduledOf]
  simp

/-- A timeline up to the end of a slot. -/
lemma endSlot_cut {before rest : List (Time × (Handler ⊕ NetworkEvent))} {t : Time} {k : Fin 4}
    (h : r.timeline = before ++ (t, .inl (.endSlot k)) :: rest) :
    t = slotWindowEnd r.config.randomWindowOrder k ∧ ∃ l₀ l₁ l₂ l₃,
      before = l₀ ++ (slotWindowStart r.config.randomWindowOrder k, .inl (.startSlot k)) :: (l₁ ++
        (slotWindowStart r.config.randomWindowOrder k + Seconds 2, .inl .observeAttackerOnPath) ::
        (l₂ ++ (t - 1000000, .inl .sampleDetectionAccuracy) :: l₃)) ∧
      slotIn (scheduledOf l₀) = some k ∧ scheduledOf l₁ = [] ∧ scheduledOf l₂ = [] ∧
      ∀ x ∈ scheduledOf l₃, ∃ j, x.2 = .applyScenarioState j := by
  obtain rfl : t = slotWindowEnd r.config.randomWindowOrder k :=
    (agenda_times _ _ (mem_agenda_of_timeline h)).1 k rfl
  refine ⟨rfl, ?_⟩
  -- The schedule tells which handlers have run, and the timeline is cut at each of them.
  have hscheduled := scheduledOf_before_handler h
  rw [agendaBefore_endSlot] at hscheduled
  obtain ⟨l₀, m₀, rfl, hl₀, hm₀⟩ := exists_of_scheduledOf_eq hscheduled
  rw [← List.nil_append (_ :: _)] at hm₀
  obtain ⟨l₁, m₁, rfl, hl₁, hm₁⟩ := exists_of_scheduledOf_eq hm₀
  rw [← List.nil_append (_ :: _)] at hm₁
  obtain ⟨l₂, l₃, rfl, hl₂, hl₃⟩ := exists_of_scheduledOf_eq hm₁
  refine ⟨l₀, l₁, l₂, l₃, rfl, ?_, hl₁, hl₂, ?_⟩
  · rw [hl₀]
    exact slotIn_agendaBefore _ k
  · intro x hx
    rw [hl₃] at hx
    split at hx
    · cases hx
    · rw [List.mem_singleton.mp hx]
      exact ⟨_, rfl⟩

/-- A slot opens its window empty. -/
lemma startSlot_opened {l : List (Time × (Handler ⊕ NetworkEvent))} (t : Time) (k : Fin 4)
    (hgoes : (r.after l).Running) :
    (r.after (l ++ [(t, .inl (.startSlot k))])).Open ∧
      (r.after (l ++ [(t, .inl (.startSlot k))])).window = Window.opened (getSeconds t) := by
  rw [after_concat, Evaluation.step_inl hgoes, Evaluation.handle,
    Evaluation.startMeasurementWindow, accepted_of_running hgoes, if_neg (by decide)]
  refine ⟨⟨rfl, le_refl _, le_refl _, le_refl _⟩, ?_⟩
  simp only [Evaluation.window, Nat.sub_self]
  rfl

/-- What the window of a slot has taken down when the slot ends. -/
lemma endSlot_window {before rest : List (Time × (Handler ⊕ NetworkEvent))} {t : Time} {k : Fin 4}
    (h : r.timeline = before ++ (t, .inl (.endSlot k)) :: rest)
    (hrunning : (r.after before).Running) :
    (r.network.filter fun x => slotWindowStart r.config.randomWindowOrder k ≤ x.1 ∧
      x.1 < slotWindowEnd r.config.randomWindowOrder k).foldlM (Window.record r.config.headers)
        (Window.opened (getSeconds (slotWindowStart r.config.randomWindowOrder k))) =
      some (r.after before).window := by
  obtain ⟨rfl, l₀, l₁, l₂, l₃, hbefore, -, hl₁, hl₂, hl₃⟩ := endSlot_cut h
  set windowStart := slotWindowStart r.config.randomWindowOrder k
  set items := l₁ ++ (windowStart + Seconds 2, Sum.inl Handler.observeAttackerOnPath) ::
    (l₂ ++ (slotWindowEnd r.config.randomWindowOrder k - 1000000,
      Sum.inl Handler.sampleDetectionAccuracy) :: l₃)
  have hitems : ∀ x ∈ scheduledOf items, x.2.isBracket = false := by
    intro x hx
    simp only [items, scheduledOf_append, scheduledOf_cons_inl, hl₁, hl₂, List.nil_append,
      List.mem_cons] at hx
    rcases hx with rfl | rfl | hx
    · rfl
    · rfl
    · obtain ⟨j, hj⟩ := hl₃ x hx
      rw [hj]
      rfl
  have hsplit : before = (l₀ ++ [(windowStart, Sum.inl (Handler.startSlot k))]) ++ items := by
    rw [hbefore, List.append_assoc]
    rfl
  rw [hsplit] at hrunning
  have hstarted := running_of_append hrunning
  have hgoes := running_of_append hstarted
  have hopened := startSlot_opened windowStart k hgoes
  -- What has come up since then comes up in the window.
  have harisen : arisingOf items = r.network.filter fun x =>
      windowStart ≤ x.1 ∧ x.1 < slotWindowEnd r.config.randomWindowOrder k := by
    have hcut : r.timeline = l₀ ++ (windowStart, .inl (.startSlot k)) :: (items ++
        (slotWindowEnd r.config.randomWindowOrder k, .inl (.endSlot k)) :: rest) := by
      rw [h, hsplit]
      simp only [List.append_assoc, List.cons_append, List.nil_append]
    have hend := arisingOf_before_handler h
    have hbegin := arisingOf_before_handler hcut
    rw [hsplit, arisingOf_append, arisingOf_append, hbegin, arisingOf_cons_inl, arisingOf_nil,
      List.append_nil] at hend
    have hle : windowStart ≤ slotWindowEnd r.config.randomWindowOrder k := by
      have hseconds : (0 : Time) ≤ Seconds 40 := by decide
      exact le_add_of_nonneg_right hseconds
    rw [← filter_lt_append r.ordered hle] at hend
    exact List.append_cancel_left hend
  rw [← harisen, ← hopened.2, hsplit]
  exact (after_window hopened.1 hitems hrunning).1

/-- Putting a scenario in force leaves what has been seen, and so does the network. -/
lemma observed_append {l items : List (Time × (Handler ⊕ NetworkEvent))}
    (hitems : ∀ x ∈ scheduledOf items, ∃ j, x.2 = .applyScenarioState j) :
    (r.after (l ++ items)).observed = (r.after l).observed := by
  refine after_keeps (g := Evaluation.observed) fun x hx s => ?_
  have hother : ∀ e, x.2 = .inl e → ∃ j, e = .applyScenarioState j := fun e he =>
    hitems (x.1, e) (mem_scheduledOf.mpr (he ▸ hx))
  refine s.step_observed (fun he => ?_) fun he => ?_
  · obtain ⟨j, hj⟩ := hother _ he
    cases hj
  · obtain ⟨j, hj⟩ := hother _ he
    cases hj

/-- What the harness has seen of the nodes when the slot ends, and when. -/
lemma endSlot_observed {before rest : List (Time × (Handler ⊕ NetworkEvent))} {t : Time} {k : Fin 4}
    (h : r.timeline = before ++ (t, .inl (.endSlot k)) :: rest)
    (hrunning : (r.after before).Running) :
    (∃ before' rest', r.timeline = before' ++ (slotWindowStart r.config.randomWindowOrder k +
        Seconds 2, .inl .observeAttackerOnPath) :: rest' ∧
      InForce r.config (r.config.scenario k).attackEnabled (r.config.scenario k).defenseEnabled
        (r.after before').nodes ∧
      (r.after before).paths = (r.after before').container.observeAttackerOnPath
        (r.config.attackerIds.map UInt32.toNat) r.config.flowAddrPairs) ∧
    ∃ before' rest', r.timeline = before' ++ (t - 1000000, .inl .sampleDetectionAccuracy) :: rest' ∧
      InForce r.config (r.config.scenario k).attackEnabled (r.config.scenario k).defenseEnabled
        (r.after before').nodes ∧
      (r.after before).detection = sampleDetectionAccuracy false
        (some (r.after before').sampledNodes) r.config.attackerIds := by
  obtain ⟨-, l₀, l₁, l₂, l₃, hbefore, hslot, hl₁, hl₂, hl₃⟩ := endSlot_cut h
  set start : Time × (Handler ⊕ NetworkEvent) :=
    (slotWindowStart r.config.randomWindowOrder k, .inl (.startSlot k))
  set observe : Time × (Handler ⊕ NetworkEvent) :=
    (slotWindowStart r.config.randomWindowOrder k + Seconds 2, .inl .observeAttackerOnPath)
  set sample : Time × (Handler ⊕ NetworkEvent) := (t - 1000000, .inl .sampleDetectionAccuracy)
  set before₁ := l₀ ++ start :: l₁
  set before₂ := before₁ ++ observe :: l₂
  have hsplit₁ : before = before₁ ++ observe :: (l₂ ++ sample :: l₃) := by
    rw [hbefore]
    simp only [before₁, List.append_assoc, List.cons_append]
  have hsplit₂ : before = before₂ ++ sample :: l₃ := by
    rw [hsplit₁]
    simp only [before₂, List.append_assoc, List.cons_append]
  have hrunning₁ : (r.after before₁).Running := running_of_append (hsplit₁ ▸ hrunning)
  have hrunning₂ : (r.after before₂).Running := running_of_append (hsplit₂ ▸ hrunning)
  have hslot₁ : slotIn (scheduledOf before₁) = some k := by
    rw [scheduledOf_append, slotIn_append, hslot]
    intro x hx
    rw [scheduledOf_cons_inl, hl₁, List.mem_singleton] at hx
    rw [hx]
    rfl
  have hslot₂ : slotIn (scheduledOf before₂) = some k := by
    rw [scheduledOf_append, slotIn_append, hslot₁]
    intro x hx
    rw [scheduledOf_cons_inl, hl₂, List.mem_singleton] at hx
    rw [hx]
    rfl
  have hobserve : (r.after before₂).paths = (r.after before₁).container.observeAttackerOnPath
      (r.config.attackerIds.map UInt32.toNat) r.config.flowAddrPairs := by
    have hnone : ∀ x ∈ scheduledOf l₂, ∃ j, x.2 = .applyScenarioState j := by
      simp [hl₂]
    have hkept := observed_append (r := r) (l := before₁ ++ [observe]) hnone
    rw [List.append_assoc, List.singleton_append, after_concat,
      Evaluation.step_inl hrunning₁] at hkept
    exact congrArg Prod.fst hkept
  have hsample : (r.after before).observed = ((r.after before₂).paths,
      sampleDetectionAccuracy false (some (r.after before₂).sampledNodes)
        r.config.attackerIds) := by
    have hkept := observed_append (r := r) (l := before₂ ++ [sample]) hl₃
    rw [List.append_assoc, List.singleton_append, ← hsplit₂, after_concat,
      Evaluation.step_inl hrunning₂] at hkept
    rw [hkept, ← accepted_of_running hrunning₂]
    rfl
  have hcut₁ : r.timeline = before₁ ++
      observe :: (l₂ ++ sample :: l₃ ++ (t, .inl (.endSlot k)) :: rest) := by
    rw [h, hsplit₁, List.append_assoc, List.cons_append]
  have hcut₂ : r.timeline = before₂ ++ sample :: (l₃ ++ (t, .inl (.endSlot k)) :: rest) := by
    rw [h, hsplit₂, List.append_assoc, List.cons_append]
  exact ⟨⟨before₁, _, hcut₁, inForce_of_slotIn hcut₁ hrunning₁ hslot₁,
      (congrArg Prod.fst hsample).trans hobserve⟩,
    before₂, _, hcut₂, inForce_of_slotIn hcut₂ hrunning₂ hslot₂, congrArg Prod.snd hsample⟩

/-- What a slot stages when it ends. -/
lemma endSlot_row {before rest : List (Time × (Handler ⊕ NetworkEvent))} {t : Time} {k : Fin 4}
    (h : r.timeline = before ++ (t, .inl (.endSlot k)) :: rest)
    (hrunning : (r.after before).Running) :
    ∃ row, (r.after (before ++ [(t, .inl (.endSlot k))])).staging =
      (r.after before).staging ++ [row] ∧ r.RowOf k row := by
  obtain ⟨⟨before₁, rest₁, hcut₁, hforce₁, hpaths⟩, before₂, rest₂, hcut₂, hforce₂, hdetection⟩ :=
    endSlot_observed h hrunning
  have hwindow := endSlot_window h hrunning
  have htotals := after_totals hrunning
  rw [arisingOf_before_handler h] at htotals
  obtain rfl : t = slotWindowEnd r.config.randomWindowOrder k := (endSlot_cut h).1
  have hlabels := labelsForScenario_scenarios (r.config.scenarioOrder k)
  rw [after_concat, Evaluation.step_inl hrunning, Evaluation.handle,
    Evaluation.endMeasurementWindow, accepted_of_running hrunning, if_neg (by decide)]
  refine ⟨_, rfl, ?_⟩
  exact
    { scenarioName := rfl
      windowStart := rfl
      windowEnd := rfl
      attackEnabled := congrArg Prod.fst hlabels
      defenseEnabled := congrArg Prod.snd hlabels
      numAttackers := rfl
      window := ⟨_, hwindow, rfl, rfl, rfl⟩
      totals := htotals
      attackerOnPath := ⟨before₁, rest₁, hcut₁, hforce₁, by rw [hpaths]⟩
      detection := ⟨before₂, rest₂, hcut₂, hforce₂, hdetection⟩ }

/-- Only a slot that ends stages something. -/
lemma handle_staging (s : Evaluation) (t : Time) {e : Handler} (he : e.ends = none) :
    (s.handle r.config t e).staging = s.staging := by
  cases hbracket : e.isBracket with
  | false => exact (s.handle_sameBooks t hbracket).staging
  | true =>
    cases e with
    | startSlot k =>
      obtain ⟨_, _, _, _, h⟩ := s.startMeasurementWindow_eq t
      rw [Evaluation.handle, h]
    | endSlot k => cases he
    | _ => cases hbracket

/-- **Run lemma** for the rows: each slot that has ended has staged its row. -/
lemma after_staging {l rest : List (Time × (Handler ⊕ NetworkEvent))} (h : r.timeline = l ++ rest)
    (hrunning : (r.after l).Running) :
    List.Forall₂ r.RowOf ((scheduledOf l).filterMap fun x => x.2.ends) (r.after l).staging := by
  induction l using List.reverseRecOn generalizing rest with
  | nil => exact .nil
  | append_singleton l x ih =>
    rw [List.append_assoc, List.singleton_append] at h
    have hgoes := running_of_append hrunning
    have hrows := ih h hgoes
    obtain ⟨t, e | e⟩ := x
    · rw [scheduledOf_append, scheduledOf_cons_inl, List.filterMap_append]
      cases he : e.ends with
      | none =>
        have hnone : ((t, e) :: scheduledOf ([] : List (Time × (Handler ⊕ NetworkEvent)))).filterMap
            (fun x => x.2.ends) = [] := by
          simp [scheduledOf, he]
        rw [hnone, List.append_nil, after_concat, Evaluation.step_inl hgoes,
          handle_staging _ _ he]
        exact hrows
      | some k =>
        cases e with
        | endSlot j =>
          -- The row has been staged at the end, and is about the slot that has ended.
          obtain ⟨row, hstaged, hrow⟩ := endSlot_row h hgoes
          rw [hstaged]
          exact List.rel_append hrows (.cons hrow .nil)
        | _ => cases he
    · have hnone : scheduledOf (l ++ [(t, Sum.inr e)]) = scheduledOf l := by
        rw [scheduledOf_append]
        exact List.append_nil _
      obtain ⟨_, _, _, _, heq⟩ := (r.after l).network_eq (c := r.config) t e
      rw [hnone, after_concat, Evaluation.step_inr hgoes, heq]
      exact hrows

/-- **Staged rows.**  A run that is not rejected, and in which no assertion fails, stages one row for
each slot, in their order. -/
theorem staged_rows (r : EvaluationRun) (haccepted : r.final.status.runRejected = false)
    (hcollected : r.final.aborted = false) :
    List.Forall₂ r.RowOf (List.finRange 4) r.final.staging := by
  have hrunning : (r.after r.timeline).Running :=
    ⟨(r.after_stopped r.timeline).trans haccepted, hcollected⟩
  have hall : scheduledOf r.timeline = agenda r.config.randomWindowOrder :=
    scheduledOf_timeline _ _
  have hrows := after_staging (List.append_nil r.timeline).symm hrunning
  rwa [hall, agenda_ends] at hrows

/-- The lone node takes part in all four scenarios. -/
theorem staged_rows_loneRun : loneRun.final.staging.map (fun row =>
      (row.scenarioName, row.attackEnabled, row.defenseEnabled)) =
    [("baseline", 0, 0), ("attack_only", 1, 0), ("defense_only", 0, 1),
      ("defense_vs_attack", 1, 1)] := by
  have hrunning : (loneRun.after loneRun.timeline).Running :=
    loneRun_running (List.append_nil _).symm
  have hrows := staged_rows loneRun (accepted_of_running hrunning) hrunning.2
  have hcolumns : (List.finRange 4).map (fun k => ((loneRun.config.scenario k).name,
        (loneRun.config.scenario k).attackEnabled.toNat,
        (loneRun.config.scenario k).defenseEnabled.toNat)) =
      loneRun.final.staging.map fun row =>
        (row.scenarioName, row.attackEnabled, row.defenseEnabled) := by
    rw [← List.forall₂_eq_eq_eq, List.forall₂_map_left_iff, List.forall₂_map_right_iff]
    refine hrows.imp fun k row hrow => ?_
    rw [hrow.scenarioName, hrow.attackEnabled, hrow.defenseEnabled]
  exact hcolumns.symm

/-! ### Rejected runs -/

/-- What has stopped stays as it is. -/
lemma after_of_not_running {l : List (Time × (Handler ⊕ NetworkEvent))}
    (h : ¬ (r.after l).Running) (l' : List (Time × (Handler ⊕ NetworkEvent))) :
    r.after (l ++ l') = r.after l := by
  induction l' using List.reverseRecOn with
  | nil => rw [List.append_nil]
  | append_singleton l' x ih =>
    rw [← List.append_assoc, after_concat, ih, Evaluation.step_of_not_running h]

/-- A run is rejected at one of its gates, and ends there. -/
lemma exists_of_rejected {l : List (Time × (Handler ⊕ NetworkEvent))}
    (h : (r.after l).status.runRejected = true) :
    ∃ before t e rest, l = before ++ (t, .inl e) :: rest ∧ e.isGate = true ∧
      (r.after before).Running ∧ r.after l = (r.after before).handle r.config t e := by
  induction l using List.reverseRecOn with
  | nil => cases h
  | append_singleton l x ih =>
    rw [after_concat] at h ⊢
    by_cases hgoes : (r.after l).Running
    · obtain ⟨t, e | e⟩ := x
      · rw [Evaluation.step_inl hgoes] at h ⊢
        cases hgate : e.isGate with
        | false =>
          rw [Evaluation.handle_status _ _ hgate, accepted_of_running hgoes] at h
          cases h
        | true => exact ⟨l, t, e, [], rfl, hgate, hgoes, rfl⟩
      · rw [Evaluation.step_inr hgoes, Evaluation.network_status, accepted_of_running hgoes] at h
        cases h
    · rw [Evaluation.step_of_not_running hgoes] at h ⊢
      obtain ⟨before, t, e, rest, rfl, hgate, hrunning, heq⟩ := ih h
      refine ⟨before, t, e, rest ++ [x], ?_, hgate, hrunning, heq⟩
      simp only [List.append_assoc, List.cons_append]

/-- **Rejected runs.**  A run is rejected after 60 seconds, at a gate which it comes to while neither the
attack nor the defense is on, and stages nothing. -/
theorem rejected (r : EvaluationRun) (h : r.final.status.runRejected = true) :
    r.final.staging = [] ∧ ∃ before e rest,
      r.timeline = before ++ (Seconds 60, .inl e) :: rest ∧ e.isGate = true ∧
      (r.after before).Running ∧ InForce r.config false false (r.after before).nodes ∧
      r.final = (r.after before).handle r.config (Seconds 60) e := by
  obtain ⟨before, t, e, rest, hcut, hgate, hrunning, hfinal⟩ := exists_of_rejected h
  have hmem := mem_agenda_of_timeline hcut
  obtain rfl : t = Seconds 60 := (agenda_times _ _ hmem).2 hgate
  obtain ⟨hslots, hends⟩ := agendaBefore_gate _ _ hmem hgate
  have hscheduled := scheduledOf_before_handler hcut
  constructor
  · -- No slot has ended.
    have hrows := after_staging hcut hrunning
    rw [hscheduled, hends, List.forall₂_nil_left_iff] at hrows
    have hnotEnds : e.ends = none := by
      cases e with
      | endSlot k => cases hgate
      | _ => rfl
    rw [final, hfinal, handle_staging _ _ hnotEnds, hrows]
  · refine ⟨before, e, rest, hcut, hgate, hrunning, ?_, hfinal⟩
    obtain ⟨hflags, hslot⟩ := after_inForce (isOwn_of_timeline hcut) hrunning
    have hnothing : ((r.after before).attackCurrentlyOn, (r.after before).defenseCurrentlyOn) =
        (false, false) := by
      rw [hslot, hscheduled, slotIn, hslots]
      cases hrandom : r.config.randomWindowOrder with
      | true => rfl
      | false =>
        -- The canonical order starts with the baseline.
        simp only [Bool.false_eq_true, if_false, List.getLast?_singleton, Option.elim_some,
          EvaluationConfig.scenario, r.config.canonical hrandom]
        rfl
    obtain ⟨hattack, hdefense⟩ := Prod.mk.inj hnothing
    rw [Evaluation.FlagsInForce, hattack, hdefense] at hflags
    exact hflags

/-- Two nodes that do not hear of each other. -/
def strangersRun : EvaluationRun where
  config := canonicalConfig
  nodes := [createdNode 1, createdNode 2]
  created := by
    intro n hn
    rcases List.mem_pair.mp hn with rfl | rfl <;> exact ⟨rfl, rfl, rfl⟩
  network := []
  ordered := by decide
  inTime := by decide
  isOwn := by simp

lemma agenda_canonical : agenda false = (0, .applyScenarioState 0) ::
    (Seconds 60, .assertConnectivity) :: (agenda false).drop 2 := by
  decide +kernel

lemma strangersRun_rejected : strangersRun.final.status.runRejected = true := by
  set first : Time × (Handler ⊕ NetworkEvent) := (0, .inl (.applyScenarioState 0))
  set gate : Time × (Handler ⊕ NetworkEvent) := (Seconds 60, .inl .assertConnectivity)
  have hcut : ∃ rest, strangersRun.timeline = [first] ++ [gate] ++ rest := by
    refine ⟨((agenda false).drop 2).map (Prod.map id Sum.inl), ?_⟩
    have hall : strangersRun.timeline = (agenda false).map (Prod.map id Sum.inl) :=
      List.merge_right _
    rw [hall, agenda_canonical]
    rfl
  obtain ⟨rest, hcut⟩ := hcut
  have hempty : Table.getRoutingTableEntries (fun _ => none) = [] :=
    List.filterMap_eq_nil_iff.mpr fun _ _ => rfl
  have hcontainer : (strangersRun.after [first]).container = [⟨1, some []⟩, ⟨2, some []⟩] := by
    rw [← hempty]
    rfl
  have hgate : (strangersRun.after ([first] ++ [gate])).status.runRejected = true := by
    have hgoes : (strangersRun.after [first]).Running := ⟨rfl, rfl⟩
    rw [after_concat, Evaluation.step_inl hgoes, Evaluation.handle, hcontainer]
    rfl
  have hstopped : ¬ (strangersRun.after ([first] ++ [gate])).Running := by
    intro hgoes
    rw [accepted_of_running hgoes] at hgate
    cases hgate
  rw [final, hcut, after_of_not_running hstopped]
  exact hgate

theorem rejected_strangersRun : strangersRun.final.staging = [] :=
  (rejected strangersRun strangersRun_rejected).1

end EvaluationRun

end ManetOlsr
