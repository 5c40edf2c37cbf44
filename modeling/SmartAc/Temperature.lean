import SmartAc.ControlInv

/-!
# Temperature influences only the cooling decision

Two runs of `Control_Step` on inputs that differ in nothing but the temperatures, the first run's
never higher. `TempLe` is the relation the runs keep: all flags, humidities, timestamps and the
setpoint agree, and the state differs at most by the first being IDLE where the second is COOLING.
The state chain reads the state only to ask for RECOVERY_WAIT, which `TempLe` decides alike.
-/

namespace SmartAc

open Machine

/-- The sensor arguments of two calls: both NULL, or equal but for a temperature no higher in the
first. -/
inductive SensorLe : Option SensorMsg → Option SensorMsg → Prop where
  | null : SensorLe none none
  | sample (t t' h : Rat) (w v : Bool) (ht : t ≤ t') :
      SensorLe (some ⟨t, h, w, v⟩) (some ⟨t', h, w, v⟩)

/-- The inputs of two calls that differ only in the temperature. -/
structure InputLe (i i' : ControlInput) : Prop where
  sensor : SensorLe i.sensor i'.sensor
  events : i.userEvents = i'.userEvents
  clock : i.nowMs = i'.nowMs

/-- Equal, or IDLE against COOLING. -/
def StateLe (s s' : AcState) : Prop := s = s' ∨ s = .idle ∧ s' = .cooling

structure TempLe (a b : ControlContext) : Prop where
  same : b = { a with temperatureC := b.temperatureC, state := b.state }
  temp : a.temperatureC ≤ b.temperatureC
  state : StateLe a.state b.state

theorem StateLe.recovery_iff {s s' : AcState} (h : StateLe s s') :
    s = .recoveryWait ↔ s' = .recoveryWait := by
  rcases h with rfl | ⟨rfl, rfl⟩ <;> simp

/-! ## Step -/

theorem prepare_tempLe {a b : ControlContext} {i i' : ControlInput} (h : TempLe a b)
    (hi : InputLe i i') :
    TempLe (prepare a i.sensor i.userEvents i.nowMs) (prepare b i'.sensor i'.userEvents i'.nowMs) := by
  obtain ⟨hsame, htemp, hst⟩ := h
  obtain ⟨sensor, userEvents, nowMs⟩ := i
  obtain ⟨sensor', userEvents', nowMs'⟩ := i'
  obtain ⟨hs, rfl, rfl⟩ := hi
  dsimp only at hs ⊢
  rcases hs with _ | ⟨t, t', hum, w, v, ht⟩
  · refine ⟨?_, by simpa using htemp, by simpa using hst⟩
    rw [hsame, prepare_eq, prepare_eq, handleEvents_eq, handleEvents_eq]
    rfl
  · refine ⟨?_, ?_, by simpa using hst⟩
    · rw [hsame, prepare_eq, prepare_eq, handleEvents_eq, handleEvents_eq]
      cases v <;> rfl
    · cases v with
      | false => simpa [validSample_invalid] using htemp
      | true => simpa [validSample_valid] using ht

theorem wantsCooling_mono {a b : ControlContext} (h : TempLe a b) (hw : wantsCooling a = true) :
    wantsCooling b = true := by
  rw [h.same]
  simp only [wantsCooling, Bool.and_eq_true, decide_eq_true_eq] at hw ⊢
  exact ⟨hw.1, hw.2.trans_le (coolingLevel_mono h.temp _ _)⟩

theorem selectState_tempLe {a b : ControlContext} (h : TempLe a b) {sensor sensor' : Option SensorMsg}
    (hs : SensorLe sensor sensor') (nowMs : UInt32) :
    TempLe (selectState a sensor nowMs) (selectState b sensor' nowMs) := by
  have hopen : sensor'.any (·.windowOpen) = sensor.any (·.windowOpen) := by cases hs <;> rfl
  have hwant := wantsCooling_mono h
  obtain ⟨hsame, htemp, hst⟩ := h
  have hrise : humidityRise b sensor' = humidityRise a sensor := by
    rw [hsame]; cases hs <;> rfl
  have hrec : b.state = .recoveryWait ↔ a.state = .recoveryWait := hst.recovery_iff.symm
  obtain ⟨p, m, hv, w, l, sp, t, hm, hb, so, sr, st⟩ := a
  obtain ⟨p', m', hv', w', l', sp', t', hm', hb', so', sr', st'⟩ := b
  simp only [ControlContext.mk.injEq, true_and] at hsame
  obtain ⟨rfl, rfl, rfl, rfl, rfl, rfl, rfl, rfl, rfl, rfl, -⟩ := hsame
  unfold selectState
  simp only [hopen, hrise, hrec]
  split_ifs
  all_goals first
    | exact ⟨rfl, htemp, .inl rfl⟩
    | exact ⟨rfl, htemp, .inr ⟨rfl, rfl⟩⟩
    | exact absurd (hwant ‹_›) ‹_›

theorem step_tempLe {a b : ControlContext} (h : TempLe a b) {i i' : ControlInput} (hi : InputLe i i') :
    TempLe (stepCtx a i) (stepCtx b i') := by
  have hprep := prepare_tempLe h hi
  obtain ⟨sensor, userEvents, nowMs⟩ := i
  obtain ⟨sensor', userEvents', nowMs'⟩ := i'
  obtain ⟨hs, rfl, rfl⟩ := hi
  dsimp only at hs hprep
  obtain ⟨hsame, htemp, hst⟩ := selectState_tempLe hprep hs nowMs
  unfold stepCtx step controlStep
  simp only [noteWindow_eq]
  refine ⟨?_, htemp, hst⟩
  rw [hsame]
  cases hs <;> rfl

/-- What the two outputs of a step have in common. -/
structure OutputLe (o o' : ControlOutput) : Prop where
  setpoint : o.setpointC = o'.setpointC
  valid : o.temperatureValid = o'.temperatureValid
  state : StateLe o.state o'.state
  level : o.coolingLevel ≤ o'.coolingLevel

theorem output_tempLe {a b : ControlContext} (h : TempLe a b) :
    OutputLe (controlOutput a) (controlOutput b) := by
  have hlvl := fun sp manual => coolingLevel_mono h.temp sp manual
  obtain ⟨hsame, -, hst⟩ := h
  have hset : b.setpointC = a.setpointC := by rw [hsame]
  have hval : b.haveSensor = a.haveSensor := by rw [hsame]
  refine ⟨hset.symm, hval.symm, hst, ?_⟩
  rcases hst with hst | ⟨ha, hb⟩
  · simp only [controlOutput, ← hst, hset]
    split_ifs
    · exact hlvl _ _
    · exact hlvl _ _
    · exact Nat.le_refl _
  · simp [controlOutput, ha, hb]

/-! ## Runs -/

/-- **Two runs of the controller** on the same events, clock readings, NULL pattern, windows,
validity and humidities, with pointwise no higher temperatures in the first: at every step the
outputs agree up to IDLE against COOLING and the cooling level is no higher in the first; and after
every run all of the context but the temperature and that difference agrees. -/
theorem temperature_only_cools {ins ins' : List ControlInput} (h : List.Forall₂ InputLe ins ins') :
    List.Forall₂ OutputLe (outputs step controlInit ins) (outputs step controlInit ins') ∧
      TempLe (final step controlInit ins) (final step controlInit ins') := by
  have h0 : TempLe controlInit controlInit := ⟨rfl, le_refl _, .inl rfl⟩
  obtain ⟨hfin, hout⟩ := run_rel TempLe InputLe OutputLe
    (fun a b i i' hab hi => ⟨step_tempLe hab hi, output_tempLe (step_tempLe hab hi)⟩) h h0
  exact ⟨hout, hfin⟩

/-- Power on, the window opens and closes again, and the wait runs out. -/
def openedAt (temperatureC : Rat) : List ControlInput :=
  [⟨some ⟨temperatureC, 40, false, true⟩, userEvtPower, 0⟩, ⟨some ⟨temperatureC, 40, true, true⟩, 0, 1000⟩,
    ⟨some ⟨temperatureC, 40, false, true⟩, 0, 2000⟩, ⟨none, 0, 8000⟩]

/-- At 24 against 26 degrees: IDLE in the first run where the second has COOLING. -/
theorem temperature_only_cools_openedAt :
    List.Forall₂ OutputLe (outputs step controlInit (openedAt 24)) (outputs step controlInit (openedAt 26)) ∧
      TempLe (final step controlInit (openedAt 24)) (final step controlInit (openedAt 26)) ∧
      (outputs step controlInit (openedAt 24)).map (·.state) = [.idle, .windowSuspect, .recoveryWait, .idle] ∧
      (outputs step controlInit (openedAt 26)).map (·.state) =
        [.cooling, .windowSuspect, .recoveryWait, .cooling] := by
  have hins : List.Forall₂ InputLe (openedAt 24) (openedAt 26) :=
    .cons ⟨.sample _ _ _ _ _ (by norm_num), rfl, rfl⟩ <| .cons ⟨.sample _ _ _ _ _ (by norm_num), rfl, rfl⟩ <|
      .cons ⟨.sample _ _ _ _ _ (by norm_num), rfl, rfl⟩ <| .cons ⟨.null, rfl, rfl⟩ .nil
  obtain ⟨hout, hfin⟩ := temperature_only_cools hins
  exact ⟨hout, hfin, by decide +kernel, by decide +kernel⟩

end SmartAc
