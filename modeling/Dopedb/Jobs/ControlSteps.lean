import Dopedb.Jobs.ControlInvariant

/-!
# Moves of the tasks of a job

Every move of a task keeps the counts balanced and what the tasks know, provided that a start
claims the row only while no token is registered, and does not find it terminal after it registered
its own. One lemma for each family of control points, put together in `resume_step`.
-/

namespace Dopedb.Jobs

open Dopedb.Library
open Dopedb.Operations (OperationState ensureTransition)

/-- What a move leads to. -/
structure Step (s s' : JobRuntime) (p p' : Control) (spawned : List Control) (rest : Counts) :
    Prop where
  balanced : Balanced s' ((p'.counts.add (countsOf spawned)).add rest)
  good : ∀ q ∈ p' :: spawned, Good s' ((p'.counts.add (countsOf spawned)).add rest).closing q
  later : s.state.Later s'.state
  leaves : p.counts.owner = 0 →
    Leaves s s' (p.counts.add rest).closing ((p'.counts.add (countsOf spawned)).add rest).closing

/-! ## Moves -/

variable {s s' : JobRuntime} {p p' : Control} {input : Input} {rest : Counts}

/-- What a move knows before it. -/
structure Before (s : JobRuntime) (p : Control) (rest : Counts) : Prop where
  balanced : Balanced s (p.counts.add rest)
  good : Good s (p.counts.add rest).closing p
  fits : rest.Fits

/-- The counts depend on the row, the map and what happened. -/
theorem Balanced.congr {c : Counts} (h : Balanced s c) (hstate : s'.state = s.state)
    (hrunning : s'.running = s.running) (htarget : ∀ event ∈ s'.target, event.ended = false)
    (hreturned : s'.returnedCancelled = true → s'.state.terminal = true) : Balanced s' c := by
  obtain ⟨h1, h2, h3, h4, h5, h6, h7, h8, h9⟩ := h
  rw [← hstate] at h3 h4 h5 h6 h7
  rw [← hrunning] at h2 h7
  exact ⟨h1, h2, h3, h4, h5, h6, h7, htarget, hreturned⟩

/-- What a task leaves that changes neither the row nor the operation nor the map. -/
theorem leaves_of_eq {closing : Nat} (hstate : s'.state = s.state)
    (hoperation : s'.operation = s.operation) (hrunning : s'.running = s.running) :
    Leaves s s' closing closing := by
  refine ⟨hrunning, fun h => hstate ▸ h, fun h => .inl (hoperation.trans h), fun _ h => ?_,
    fun _ h => hstate ▸ h⟩
  exact ⟨hstate ▸ h.state, hoperation.trans h.operation, h.closing⟩

/-- A move to a control point that counts for the same and changes neither the row nor the map. -/
theorem Before.stay (h : Before s p rest) (hcounts : p'.counts = p.counts)
    (hstate : s'.state = s.state) (hrunning : s'.running = s.running)
    (htarget : ∀ event ∈ s'.target, event.ended = false)
    (hreturned : s'.returnedCancelled = true → s'.state.terminal = true)
    (hleaves : p.counts.owner = 0 →
      Leaves s s' (p.counts.add rest).closing (p.counts.add rest).closing)
    (hgood : Good s' (p.counts.add rest).closing p') : Step s s' p p' [] rest := by
  have hsame : (p'.counts.add (countsOf [])).add rest = p.counts.add rest := by rw [hcounts]; rfl
  refine ⟨?_, ?_, hstate ▸ .refl s.state, ?_⟩
  · rw [hsame]
    exact h.balanced.congr hstate hrunning htarget hreturned
  · rw [hsame]
    exact fun q hq => List.mem_singleton.mp hq ▸ hgood
  · rw [hsame]
    exact hleaves

/-- A move that changes nothing but its control point. -/
theorem Before.only (h : Before s p rest) (hcounts : p'.counts = p.counts)
    (hgood : Good s (p.counts.add rest).closing p') : Step s s p p' [] rest :=
  h.stay hcounts rfl rfl h.balanced.target h.balanced.returned
    (fun _ => leaves_of_eq rfl rfl rfl) hgood

/-- A task that has ended knows nothing. -/
theorem good_ended (closing : Nat) : Good s closing .ended := ⟨nofun, trivial⟩

/-! ### Starting -/

/-- A call reads something first. -/
theorem step_start_reads {point : StartPoint} (h : Before s (.start point) rest)
    (hpoint : point = .begin ∨ point = .current ∨ ∃ current, point = .operation current) :
    Step s (resumeStart s input point).1 (.start point) (resumeStart s input point).2.1
      (resumeStart s input point).2.2 rest := by
  rcases hpoint with rfl | rfl | ⟨current, rfl⟩
  · show Step s s _ (if s.running.isSome then Control.ended else .start .current) _ _
    split <;> exact h.only rfl ⟨nofun, trivial⟩
  · show Step s s _ (if input = .refused then Control.ended else .start (.operation s.state)) _ _
    split <;> exact h.only rfl ⟨nofun, trivial⟩
  · exact h.only rfl ⟨nofun, trivial⟩

/-- A row that can be claimed is waiting. -/
theorem claimRunning_eq_some {state state' : JobState} (h : state.claimRunning = some state') :
    state' = .running ∧ (state = .queued ∨ state = .paused) := by
  revert h
  cases state <;> cases state' <;> decide

/-- A start claims the row where no token is registered, so nobody else owns the job. -/
theorem step_claim {current : JobState} {operation : OperationState}
    (h : Before s (.start (.claim current operation)) rest)
    (hfinds : ClaimGranted s input current operation → s.running = none) :
    Step s (resumeStart s input (.claim current operation)).1 (.start (.claim current operation))
      (resumeStart s input (.claim current operation)).2.1
      (resumeStart s input (.claim current operation)).2.2 rest := by
  simp only [resumeStart]
  split
  · exact h.only rfl ⟨nofun, trivial⟩
  · next hgranted =>
      cases hclaim : s.state.claimRunning with
      | none => exact h.only rfl ⟨nofun, trivial⟩
      | some state =>
          have horder := hfinds ⟨hgranted, by rw [hclaim]; rfl⟩
          obtain ⟨rfl, hwaiting⟩ := claimRunning_eq_some hclaim
          obtain ⟨⟨hone, hmap, hheld, hrunning, hclosing, hrequested, hbusy, htarget, hreturned⟩, -,
            hfits⟩ := h
          have hidle : s.state.claimed = false ∧ s.state.doomed = false ∧
              s.state.terminal = false := by
            rcases hwaiting with h | h <;> rw [h] <;> decide
          obtain ⟨hclaimed, hdoomed, hterminal⟩ := hidle
          simp only [Control.counts, Counts.add, Nat.zero_add, horder] at hone hmap hheld hclosing
          -- nobody else holds a waiting row or finishes it, and no token is registered for it
          have hholds : rest.holds = 0 := by
            by_contra hne
            rw [hheld (by omega)] at hclaimed
            cases hclaimed
          have hregistered : rest.registered = 0 := hmap
          have howner := hfits.owner
          have hrestclosing : rest.closing = 0 := by
            by_contra hne
            rw [hclosing (by omega)] at hdoomed
            cases hdoomed
          refine ⟨⟨?_, ?_, fun _ => rfl, fun _ => ?_, fun h => ?_, nofun, fun _ h => ?_, htarget,
            fun h => ?_⟩, ?_, ?_,
            fun _ => ⟨rfl, fun h => ?_, fun h => .inl h, fun h => ?_, fun h => ?_⟩⟩
          · show 1 + 0 + rest.owner ≤ 1
            omega
          · show 0 + 0 + rest.registered = if s.running.isSome then 1 else 0
            rw [hregistered, horder]
            rfl
          · show 1 ≤ 1 + 0 + rest.holds
            omega
          · exact absurd (show 1 ≤ 0 + 0 + rest.closing from h) (by omega)
          · exact absurd (show s.running.isSome = true from h) (by rw [horder]; decide)
          · exact absurd (hreturned h) (by rw [hterminal]; decide)
          · rintro q hq
            obtain rfl := List.mem_singleton.mp hq
            exact ⟨nofun, rfl⟩
          · exact ⟨fun h => absurd h (by rw [hterminal]; decide),
              fun h => absurd h (by rw [hdoomed]; decide)⟩
          · exact rfl
          · exact absurd h (by rw [horder]; decide)
          · exact absurd h (by rw [horder]; decide)

/-- A claim of the operation changes nothing else, and a claimed operation executes. -/
theorem claimOperation_spec (s : JobRuntime) (current : JobState) (operation : OperationState)
    (input : Input) :
    ∃ operation', (claimOperation s current operation input).2 = { s with operation := operation' } ∧
      ((claimOperation s current operation input).1 = true → operation' = .executing) := by
  unfold claimOperation
  split
  · split
    · exact ⟨.executing, rfl, fun _ => rfl⟩
    · exact ⟨.cancelled, rfl, nofun⟩
    · exact ⟨s.operation, rfl, nofun⟩
  · split
    · cases input with
      | proceed =>
          by_cases h : s.operation = .executing
          · simp only [if_pos h]
            exact ⟨s.operation, rfl, fun _ => h⟩
          · simp only [if_neg h]
            exact ⟨s.operation, rfl, nofun⟩
      | refused | revoked | answer | exhausted => exact ⟨s.operation, rfl, nofun⟩
    · exact ⟨s.operation, rfl, nofun⟩

/-- A start claims the operation, or will give the row back. -/
theorem step_execute {current : JobState} {operation : OperationState}
    (h : Before s (.start (.execute current operation)) rest) :
    Step s (resumeStart s input (.execute current operation)).1
      (.start (.execute current operation)) (resumeStart s input (.execute current operation)).2.1
      (resumeStart s input (.execute current operation)).2.2 rest := by
  obtain ⟨operation', hs, hclaimed⟩ := claimOperation_spec s current operation input
  have hrow : s.state.claimed = true := h.good.knows
  cases hclaim : claimOperation s current operation input with
  | mk claimed s₁ =>
      rw [hclaim] at hs hclaimed
      obtain rfl : s₁ = { s with operation := operation' } := hs
      cases claimed with
      | true =>
          simp only [resumeStart, hclaim]
          exact h.stay rfl rfl rfl h.balanced.target h.balanced.returned nofun
            ⟨nofun, hrow, .inl (hclaimed rfl)⟩
      | false =>
          simp only [resumeStart, hclaim]
          exact h.stay rfl rfl rfl h.balanced.target h.balanced.returned nofun ⟨nofun, hrow⟩

/-- A start registers its token: it owned the job already. -/
theorem step_register (h : Before s (.start .register) rest) :
    Step s (resumeStart s input .register).1 (.start .register)
      (resumeStart s input .register).2.1 (resumeStart s input .register).2.2 rest := by
  obtain ⟨⟨hone, -, hheld, hrunning, hclosing, hrequested, -, htarget, hreturned⟩, hgood, hfits⟩ := h
  have hregistered := hfits.registered
  have howner : 1 + rest.owner ≤ 1 := hone
  refine ⟨⟨hone, ?_, hheld, hrunning, hclosing, fun _ => ?_, fun _ _ => ?_, htarget, hreturned⟩,
    ?_, .refl s.state, nofun⟩
  · show 1 + 0 + rest.registered = 1
    omega
  · show 1 ≤ 1 + 0 + rest.working + (0 + 0 + rest.pending) + (0 + 0 + rest.closing)
    omega
  · show 1 ≤ 1 + 0 + rest.working + (0 + 0 + rest.closing)
    omega
  · rintro q hq
    obtain rfl := List.mem_singleton.mp hq
    exact ⟨fun _ ht => ht, hgood.knows⟩

/-- A row that is claimed and not doomed runs. -/
theorem progresses_of_claimed {state : JobState} (hclaimed : state.claimed = true)
    (hdoomed : state.doomed = false) : state.progresses = true := by
  revert hclaimed hdoomed
  cases state <;> decide

/-- A start that finds its job alive may let a worker work. -/
theorem step_reread {token : Token} (h : Before s (.start (.reread token)) rest)
    (horder : s.state.terminal = false) :
    Step s (resumeStart s input (.reread token)).1 (.start (.reread token))
      (resumeStart s input (.reread token)).2.1 (resumeStart s input (.reread token)).2.2 rest := by
  obtain ⟨hclaimed, hoperation⟩ := h.good.knows
  refine h.only rfl ⟨h.good.token, fun heq => ?_, fun hne => ?_⟩
  · rw [heq]
    rfl
  · have hdoomed : s.state.doomed = false := by
      unfold JobState.doomed
      rw [horder, Bool.or_false]
      exact decide_eq_false hne
    refine ⟨progresses_of_claimed hclaimed hdoomed, ?_, ?_⟩
    · rcases hoperation with h | h
      · exact h
      · rw [hdoomed] at h
        cases h
    · by_contra hne
      have hcontra := h.balanced.closing (Nat.pos_of_ne_zero hne)
      rw [hdoomed] at hcontra
      cases hcontra

/-- A doomed row does not run. -/
theorem stored_of_doomed {state : JobState} (h : state.doomed = true) : state.stored ≠ .running := by
  revert h
  cases state <;> decide

/-- A start hands the job to a worker, or finishes it where its cancellation was requested. -/
theorem step_spawn {token : Token} {latest : JobState}
    (h : Before s (.start (.spawn token latest)) rest) :
    Step s (resumeStart s input (.spawn token latest)).1 (.start (.spawn token latest))
      (resumeStart s input (.spawn token latest)).2.1
      (resumeStart s input (.spawn token latest)).2.2 rest := by
  obtain ⟨⟨hone, hmap, hheld, hrunning, hclosing, hrequested, hbusy, htarget, hreturned⟩,
    ⟨htoken, hlost, hworks⟩, hfits⟩ := h
  simp only [resumeStart]
  have howner : 1 + rest.owner ≤ 1 := hone
  have hholds := hfits.holds
  have hregistered := hfits.registered
  split
  · next heq =>
      have hdoomed := hlost heq
      refine ⟨⟨?_, ?_, ?_, ?_, fun _ => hdoomed, fun _ => ?_, fun _ => nofun, htarget, hreturned⟩,
        ?_, .refl s.state, nofun⟩
      · show 0 + 0 + rest.owner ≤ 1
        omega
      · show 0 + 0 + rest.registered = 0
        omega
      · show 1 ≤ 0 + 0 + rest.holds → _
        omega
      · exact fun hstored => absurd hstored (stored_of_doomed hdoomed)
      · show 1 ≤ 0 + 0 + rest.working + (0 + 0 + rest.pending) + (1 + 0 + rest.closing)
        omega
      · rintro q hq
        obtain rfl := List.mem_singleton.mp hq
        exact ⟨nofun, hdoomed⟩
  · next hne =>
      have hkeeps : ∀ cancelled, ∀ q ∈ [Control.ended, .work token .permit],
          Good { s with cancelled := cancelled } (0 + rest.closing) q := by
        rintro cancelled q hq
        rcases List.mem_cons.mp hq with rfl | hq
        · exact good_ended _
        · obtain rfl := List.mem_singleton.mp hq
          exact ⟨htoken, (hworks hne).state, (hworks hne).operation, (hworks hne).closing⟩
      have hsame : (Control.counts .ended).add (countsOf [.work token .permit]) =
          Control.counts (.start (.spawn token latest)) := rfl
      split
      · exact ⟨by rw [hsame]; exact ⟨hone, hmap, hheld, hrunning, hclosing, hrequested, hbusy,
          htarget, hreturned⟩, hkeeps _, .refl s.state, nofun⟩
      · exact ⟨by rw [hsame]; exact ⟨hone, hmap, hheld, hrunning, hclosing, hrequested, hbusy,
          htarget, hreturned⟩, hkeeps _, .refl s.state, nofun⟩

/-- The transitions of a start that gives its row back. -/
theorem back_cases (state current : JobState) :
    let back : JobTransition :=
      if current = .paused then .pauseCompleted else .initialStartRolledBack
    (state.stored = .running ∧ ∃ state', state.transition back = some state' ∧
        (state' = .paused ∨ state' = .queued)) ∨
      (state.stored ≠ .running ∧ state.transition back = none) := by
  cases state <;> cases current <;> decide

/-- A start gives its row back, or finishes a job whose cancellation was requested. -/
theorem step_restore {current latest : JobState}
    (h : Before s (.start (.restore current latest)) rest) :
    Step s (resumeStart s input (.restore current latest)).1 (.start (.restore current latest))
      (resumeStart s input (.restore current latest)).2.1
      (resumeStart s input (.restore current latest)).2.2 rest := by
  obtain ⟨⟨hone, hmap, hheld, hrunning, hclosing, hrequested, hbusy, htarget, hreturned⟩,
    ⟨-, hclaimed, hlost⟩, hfits⟩ := h
  simp only [resumeStart]
  have howner : 1 + rest.owner ≤ 1 := hone
  have hholds := hfits.holds
  split
  · next heq =>
      -- the start finishes a job whose cancellation was requested in between
      have hdoomed := hlost heq
      refine ⟨⟨?_, hmap, ?_, ?_, fun _ => hdoomed, fun _ => ?_, fun hp hr => ?_, htarget,
        hreturned⟩, ?_, .refl s.state, nofun⟩
      · show 0 + 0 + rest.owner ≤ 1
        omega
      · show 1 ≤ 0 + 0 + rest.holds → _
        omega
      · exact fun hstored => absurd hstored (stored_of_doomed hdoomed)
      · show 1 ≤ 0 + 0 + rest.working + (0 + 0 + rest.pending) + (1 + 0 + rest.closing)
        omega
      · show 1 ≤ 0 + 0 + rest.working + (1 + 0 + rest.closing)
        omega
      · rintro q hq
        obtain rfl := List.mem_singleton.mp hq
        exact ⟨nofun, hdoomed⟩
  -- a row that is still running goes back to where it was claimed
  · rcases back_cases s.state current with ⟨hstored, state', hback, hstate'⟩ | ⟨hstored, hback⟩
    · simp only [hback, Option.getD_some]
      have hdoomed : s.state.doomed = false := by
        by_contra h
        exact stored_of_doomed (by simpa using h) hstored
      have hterminal : s.state.terminal = false := by
        unfold JobState.doomed at hdoomed
        exact (Bool.or_eq_false_iff.mp hdoomed).2
      refine ⟨⟨?_, hmap, ?_, ?_, fun h => absurd (hclosing h) (by rw [hdoomed]; decide), ?_, ?_,
        htarget, fun h => absurd (hreturned h) (by rw [hterminal]; decide)⟩, ?_,
        JobState.later_of_transition hback, nofun⟩
      · show 0 + 0 + rest.owner ≤ 1
        omega
      · show 1 ≤ 0 + 0 + rest.holds → _
        omega
      · rcases hstate' with rfl | rfl <;> exact nofun
      · rcases hstate' with rfl | rfl <;> exact nofun
      · rcases hstate' with rfl | rfl <;> exact nofun
      · rintro q hq
        obtain rfl := List.mem_singleton.mp hq
        exact good_ended _
    · simp only [hback, Option.getD_none]
      refine ⟨⟨?_, hmap, ?_, fun h => absurd h hstored, hclosing, hrequested, hbusy, htarget,
        hreturned⟩, ?_, .refl s.state, nofun⟩
      · show 0 + 0 + rest.owner ≤ 1
        omega
      · show 1 ≤ 0 + 0 + rest.holds → _
        omega
      · rintro q hq
        obtain rfl := List.mem_singleton.mp hq
        exact good_ended _

/-- A move of a start keeps what the tasks hold. -/
theorem step_start (input : Input) {point : StartPoint} (h : Before s (.start point) rest)
    (horder : FindsInOrder s input (.start point)) :
    Step s (resumeStart s input point).1 (.start point) (resumeStart s input point).2.1
      (resumeStart s input point).2.2 rest := by
  cases point with
  | begin => exact step_start_reads h (.inl rfl)
  | current => exact step_start_reads h (.inr (.inl rfl))
  | operation current => exact step_start_reads h (.inr (.inr ⟨current, rfl⟩))
  | claim current operation => exact step_claim h horder
  | execute current operation => exact step_execute h
  | register => exact step_register h
  | reread token => exact step_reread h horder
  | spawn token latest => exact step_spawn h
  | refused current =>
      refine h.only rfl ⟨nofun, h.good.knows, fun heq => ?_⟩
      rw [heq]
      rfl
  | restore current latest => exact step_restore h

/-! ### Pausing and cancelling -/

/-- A row that can be asked to pause runs. -/
theorem requestPause_eq_some {state state' : JobState} (h : state.requestPause = some state') :
    state = .running ∧ state' = .pauseRequested := by
  revert h
  cases state <;> cases state' <;> decide

/-- A move of a pause keeps what the tasks hold. -/
theorem step_pause {point : PausePoint} (h : Before s (.pause point) rest) :
    Step s (resumePause s input point).1 (.pause point) (resumePause s input point).2 [] rest := by
  cases point with
  | begin =>
      show Step s s _ (if input = .refused ∨ s.resumable = false then Control.ended
        else .pause .request) _ _
      split <;> exact h.only rfl ⟨nofun, trivial⟩
  | request =>
      cases hpause : s.state.requestPause with
      | none =>
          simp only [resumePause, hpause]
          exact h.only rfl (good_ended _)
      | some state =>
          simp only [resumePause, hpause]
          obtain ⟨hrun, rfl⟩ := requestPause_eq_some hpause
          obtain ⟨⟨hone, hmap, -, hrunning, hclosing, -, hbusy, htarget, hreturned⟩, -, -⟩ := h
          rw [hrun] at hrunning hclosing hbusy hreturned
          refine ⟨⟨hone, hmap, fun _ => rfl, fun _ => hrunning rfl, fun h => ?_, nofun,
            fun _ => hbusy rfl, htarget, fun h => ?_⟩, ?_, ?_, fun _ => ⟨rfl, fun _ => rfl,
              fun h => .inl h, fun _ h => ⟨rfl, h.operation, h.closing⟩, fun _ h => ?_⟩⟩
          · cases hclosing h
          · cases hreturned h
          · rintro q hq
            obtain rfl := List.mem_singleton.mp hq
            exact ⟨nofun, trivial⟩
          · rw [hrun]
            exact ⟨nofun, nofun⟩
          · rw [hrun] at h
            rcases h with h | h <;> cases h
  | signal =>
      cases hrunning : s.running with
      | none =>
          simp only [resumePause, hrunning]
          exact h.only rfl (good_ended _)
      | some token =>
          simp only [resumePause, hrunning]
          exact h.stay rfl rfl rfl h.balanced.target h.balanced.returned
            (fun _ => leaves_of_eq rfl rfl rfl) (good_ended _)

/-- What the transition of a cancel call does to the row. -/
theorem cancel_cases (state current : JobState) :
    let transition : JobTransition :=
      if current.stored = .running then .runningCancellationRequested else .waitingCancelled
    state.transition transition = none ∨
      (state.stored = .running ∧ state.transition transition = some .cancelRequested) ∨
      ((state = .queued ∨ state = .paused) ∧ state.transition transition = some .cancelled) := by
  cases state <;> cases current <;> decide

/-- A cancel call moves the row: a job that runs is asked to stop, one that waits is cancelled. -/
theorem step_cancel_transition {current : JobState}
    (h : Before s (.cancel (.transition current)) rest) :
    Step s (resumeCancel s input (.transition current)).1 (.cancel (.transition current))
      (resumeCancel s input (.transition current)).2 [] rest := by
  simp only [resumeCancel]
  obtain ⟨⟨hone, hmap, hheld, hrunning, hclosing, -, hbusy, htarget, hreturned⟩, -, -⟩ := id h
  rcases cancel_cases s.state current with hnone | ⟨hstored, hsome⟩ | ⟨hwaiting, hsome⟩
  · simp only [hnone]
    exact h.only rfl (good_ended _)
  · simp only [hsome]
    have hfacts : s.state.terminal = false ∧ s.state ≠ .paused ∧ s.state.progresses = true := by
      revert hstored
      cases s.state <;> decide
    obtain ⟨hterminal, hpaused, hprogresses⟩ := hfacts
    refine ⟨⟨hone, hmap, fun _ => rfl, nofun, fun _ => rfl, fun _ => ?_,
      fun _ => hbusy hprogresses, htarget, fun h => ?_⟩, ?_, JobState.later_of_transition hsome,
      fun _ => ⟨rfl, fun _ => rfl, fun h => .inl h,
        fun _ h => ⟨rfl, h.operation, h.closing⟩, fun _ h => ?_⟩⟩
    · show 1 ≤ 0 + 0 + rest.working + (1 + 0 + rest.pending) + (0 + 0 + rest.closing)
      omega
    · exact absurd (hreturned h) (by rw [hterminal]; decide)
    · rintro q hq
      obtain rfl := List.mem_singleton.mp hq
      exact ⟨nofun, rfl⟩
    · rcases h with h | h
      · exact absurd h hpaused
      · exact absurd h (by rw [hterminal]; decide)
  · simp only [hsome]
    have hfacts : s.state.claimed = false ∧ s.state.progresses = false := by
      rcases hwaiting with h | h <;> rw [h] <;> decide
    obtain ⟨hclaimed, hprogresses⟩ := hfacts
    refine ⟨⟨hone, hmap, fun _ => rfl, nofun, fun _ => rfl, nofun, nofun, htarget,
      fun _ => rfl⟩, ?_, JobState.later_of_transition hsome, fun _ => ⟨rfl, fun _ => rfl,
        fun h => .inl h, fun _ h => ?_, fun _ _ => .inr rfl⟩⟩
    · rintro q hq
      obtain rfl := List.mem_singleton.mp hq
      exact ⟨nofun, rfl⟩
    · exact absurd h.state (by rw [hprogresses]; decide)

/-- A cancel call that returns the state of its job returns a cancelled one only where it is. -/
theorem returned_of_returns {state : JobState}
    (hreturned : s.returnedCancelled = true → s.state.terminal = true)
    (hstate : state = .cancelled → s.state.terminal = true) :
    (s.returns state).returnedCancelled = true → (s.returns state).state.terminal = true := by
  intro h
  rcases Bool.or_eq_true_iff.mp h with h | h
  · exact hreturned h
  · exact hstate (of_decide_eq_true h)

/-- A cancel call signals the worker that is registered, or starts to close the job itself. -/
theorem step_cancel_signal {updated : JobState}
    (h : Before s (.cancel (.signal updated)) rest) :
    Step s (resumeCancel s input (.signal updated)).1 (.cancel (.signal updated))
      (resumeCancel s input (.signal updated)).2 [] rest := by
  obtain ⟨⟨hone, hmap, hheld, hrunning, hclosing, hrequested, hbusy, htarget, hreturned⟩,
    ⟨-, hdoomed, hupdated, hends⟩, -⟩ := h
  simp only [resumeCancel]
  cases hrun : s.running with
  | some token =>
      have hsome : s.running.isSome = true := by rw [hrun]; rfl
      refine ⟨⟨hone, ?_, hheld, hrunning, hclosing, fun h => ?_, fun hp _ => hbusy hp hsome, htarget,
        returned_of_returns hreturned fun h => hends (by rw [h]; rfl)⟩, ?_, .refl s.state,
        fun _ => leaves_of_eq rfl rfl rfl⟩
      · exact hmap
      · -- The registered worker stands for the request from here on.
        have hworks : 1 ≤ 0 + rest.working + (0 + rest.closing) :=
          hbusy (by rw [show s.state = .cancelRequested from h]; rfl) hsome
        show 1 ≤ 0 + 0 + rest.working + (0 + 0 + rest.pending) + (0 + 0 + rest.closing)
        omega
      · rintro q hq
        obtain rfl := List.mem_singleton.mp hq
        exact good_ended _
  | none =>
      have hnone : s.running.isSome = false := by rw [hrun]; rfl
      by_cases heq : updated = .cancelRequested
      · have hcounts : Control.counts (.cancel (.operation updated)) = { closing := 1 } := if_pos heq
        refine ⟨?_, ?_, .refl s.state, fun _ => ⟨rfl, fun h => h, fun h => .inl h,
          fun h => absurd h (by rw [hnone]; decide), fun _ h => h⟩⟩
        · rw [hcounts]
          refine ⟨hone, hmap, hheld, hrunning, fun _ => hdoomed, fun _ => ?_,
            fun _ h => absurd h (by rw [hnone]; decide), htarget, hreturned⟩
          show 1 ≤ 0 + 0 + rest.working + (0 + 0 + rest.pending) + (1 + 0 + rest.closing)
          omega
        · rintro q hq
          obtain rfl := List.mem_singleton.mp hq
          exact ⟨nofun, hdoomed, hupdated, hends⟩
      · have hcounts : Control.counts (.cancel (.operation updated)) = {} := if_neg heq
        have hterminal : s.state.terminal = true := by
          refine hends ?_
          unfold JobState.doomed at hupdated
          simpa [heq] using hupdated
        refine ⟨?_, ?_, .refl s.state, fun _ => ⟨rfl, fun h => h, fun h => .inl h,
          fun h => absurd h (by rw [hnone]; decide), fun _ h => h⟩⟩
        · rw [hcounts]
          refine ⟨hone, hmap, hheld, hrunning, hclosing, fun h => ?_,
            fun _ h => absurd h (by rw [hnone]; decide), htarget, hreturned⟩
          rw [h] at hterminal
          cases hterminal
        · rintro q hq
          obtain rfl := List.mem_singleton.mp hq
          exact ⟨nofun, hdoomed, hupdated, hends⟩

/-- Cancelling the operation changes nothing else. -/
theorem cancelOperationFrom_eq (s : JobRuntime) (operation : OperationState) :
    ∃ operation', s.cancelOperationFrom operation = { s with operation := operation' } := by
  unfold JobRuntime.cancelOperationFrom JobRuntime.moveOperation
  split
  · exact ⟨s.operation, rfl⟩
  · split
    · exact ⟨.cancelled, rfl⟩
    · exact ⟨s.operation, rfl⟩

/-- A task that cancels the operation of a doomed job leaves no worker that may work. -/
theorem leaves_of_operation {operation : OperationState} {closing : Nat}
    (hdoomed : s.state.doomed = true) (hworks : ¬ Works s closing) :
    Leaves s { s with operation := operation } closing closing :=
  ⟨rfl, fun h => h, fun _ => .inr hdoomed, fun _ h => absurd h hworks, fun _ h => h⟩

/-- A row of a worker that may work is not terminal. -/
theorem not_works_of_terminal {closing : Nat} (h : s.state.terminal = true) :
    ¬ Works s closing := by
  intro hworks
  have hstate := hworks.state
  revert h hstate
  cases s.state <;> decide

/-- A cancel call without a worker cancels the operation. -/
theorem step_cancel_settle {updated : JobState} {operation : OperationState}
    (h : Before s (.cancel (.settle updated operation)) rest) :
    Step s (resumeCancel s input (.settle updated operation)).1
      (.cancel (.settle updated operation))
      (resumeCancel s input (.settle updated operation)).2 [] rest := by
  obtain ⟨hdoomed, hupdated, hends⟩ := h.good.knows
  obtain ⟨operation', hs⟩ := cancelOperationFrom_eq s operation
  simp only [resumeCancel, hs]
  by_cases heq : updated = .cancelRequested
  · have hcounts : Control.counts (.cancel (.settle updated operation)) = { closing := 1 } :=
      if_pos heq
    rw [if_pos heq]
    refine h.stay hcounts.symm rfl rfl h.balanced.target h.balanced.returned
      (fun _ => leaves_of_operation hdoomed fun hworks => ?_) ⟨nofun, hdoomed⟩
    have hclosing := hworks.closing
    rw [hcounts] at hclosing
    have : 1 + rest.closing = 0 := hclosing
    omega
  · have hcounts : Control.counts (.cancel (.settle updated operation)) = {} := if_neg heq
    have hterminal : s.state.terminal = true := by
      refine hends ?_
      unfold JobState.doomed at hupdated
      simpa [heq] using hupdated
    rw [if_neg heq]
    exact h.stay hcounts.symm rfl rfl h.balanced.target h.balanced.returned
      (fun _ => leaves_of_operation hdoomed (not_works_of_terminal hterminal)) ⟨nofun, hterminal⟩

/-- A move of a cancel keeps what the tasks hold. -/
theorem step_cancel {point : CancelPoint} (h : Before s (.cancel point) rest) :
    Step s (resumeCancel s input point).1 (.cancel point) (resumeCancel s input point).2 [] rest := by
  cases point with
  | begin =>
      simp only [resumeCancel]
      split
      · exact h.only rfl (good_ended _)
      · split
        · refine h.stay rfl rfl rfl h.balanced.target
            (returned_of_returns h.balanced.returned fun heq => ?_)
            (fun _ => leaves_of_eq rfl rfl rfl) (good_ended _)
          rw [heq]
          rfl
        · exact h.only rfl ⟨nofun, trivial⟩
  | request => exact h.only rfl ⟨nofun, trivial⟩
  | transition current => exact step_cancel_transition h
  | updated =>
      have hdoomed : s.state.doomed = true := h.good.knows
      exact h.only rfl ⟨nofun, hdoomed, hdoomed, fun h => h⟩
  | signal updated => exact step_cancel_signal h
  | operation updated =>
      exact h.only rfl ⟨nofun, h.good.knows⟩
  | settle updated operation => exact step_cancel_settle h
  | retire updated =>
      have hterminal : s.state.terminal = true := h.good.knows
      exact h.stay rfl rfl rfl h.balanced.target (fun _ => hterminal)
        (fun _ => leaves_of_eq rfl rfl rfl) (good_ended _)

/-! ### Finishing -/

/-- What becomes of a doomed row that is to be cancelled. -/
theorem finish_cases {state : JobState} (h : state.doomed = true) :
    (state = .cancelRequested ∧ state.transition .executionCancelled = some .cancelled) ∨
      (state.terminal = true ∧ state.transition .executionCancelled = none) := by
  revert h
  cases state <;> decide

/-- A row whose cancellation was requested is cancelled, unless it has ended meanwhile. -/
theorem step_finish_row {after : Option Token} (h : Before s (.finish after .row) rest) :
    Step s (resumeFinish s after .row).1 (.finish after .row) (resumeFinish s after .row).2 []
      rest := by
  obtain ⟨⟨hone, hmap, hheld, hrunning, hclosing, -, -, htarget, hreturned⟩, ⟨htoken, hdoomed⟩,
    -⟩ := h
  simp only [resumeFinish]
  have hworks : ∀ {closing : Nat}, 1 ≤ closing → ¬ Works s closing := fun h hworks => by
    have hzero := hworks.closing
    omega
  rcases finish_cases hdoomed with ⟨hstate, hsome⟩ | ⟨hterminal, hnone⟩
  · simp only [hsome]
    have hlater := JobState.later_of_transition hsome
    cases after with
    | none =>
        refine ⟨⟨hone, hmap, fun _ => rfl, nofun, fun _ => rfl, nofun, nofun, htarget,
          fun _ => rfl⟩, ?_, hlater, fun _ => ⟨rfl, fun _ => rfl, fun h => .inl h, fun _ h => ?_,
            fun _ _ => .inr rfl⟩⟩
        · rintro q hq
          obtain rfl := List.mem_singleton.mp hq
          exact ⟨nofun, rfl⟩
        · exact absurd h (hworks (Nat.le_add_right 1 rest.closing))
    | some token =>
        refine ⟨⟨hone, hmap, fun _ => rfl, nofun, fun _ => rfl, nofun, nofun, htarget,
          fun _ => rfl⟩, ?_, hlater, nofun⟩
        rintro q hq
        obtain rfl := List.mem_singleton.mp hq
        exact ⟨htoken, rfl⟩
  · simp only [hnone]
    have hnotRequested : s.state ≠ .cancelRequested := fun h => by
      rw [h] at hterminal
      cases hterminal
    have hidle : s.state.progresses = false := by
      revert hterminal
      cases s.state <;> decide
    cases after with
    | none =>
        refine ⟨⟨hone, hmap, hheld, hrunning, fun _ => hdoomed, fun h => absurd h hnotRequested,
          fun h => absurd h (by rw [hidle]; decide), htarget, hreturned⟩, ?_, .refl s.state,
          fun _ => ⟨rfl, fun h => h, fun h => .inl h, fun _ h => ?_, fun _ h => h⟩⟩
        · rintro q hq
          obtain rfl := List.mem_singleton.mp hq
          exact good_ended _
        · exact absurd h (hworks (Nat.le_add_right 1 rest.closing))
    | some token =>
        refine ⟨⟨hone, hmap, hheld, hrunning, fun _ => hdoomed, fun h => absurd h hnotRequested,
          fun h => absurd h (by rw [hidle]; decide), htarget, hreturned⟩, ?_, .refl s.state,
          nofun⟩
        rintro q hq
        obtain rfl := List.mem_singleton.mp hq
        exact ⟨htoken, .inr hterminal⟩

/-- A move of `finish_cancelled_without_worker` keeps what the tasks hold. -/
theorem step_finish {after : Option Token} {point : FinishPoint}
    (h : Before s (.finish after point) rest) :
    Step s (resumeFinish s after point).1 (.finish after point) (resumeFinish s after point).2 []
      rest := by
  cases point with
  | row => exact step_finish_row h
  | operation =>
      refine h.only ?_ ⟨h.good.token, h.good.knows⟩
      cases after <;> rfl
  | settle operation =>
      have hterminal : s.state.terminal = true := h.good.knows
      have hdoomed : s.state.doomed = true := by
        unfold JobState.doomed
        rw [hterminal, Bool.or_true]
      obtain ⟨operation', hs⟩ := cancelOperationFrom_eq s operation
      simp only [resumeFinish, hs]
      refine h.stay ?_ rfl rfl h.balanced.target h.balanced.returned
        (fun _ => leaves_of_operation hdoomed (not_works_of_terminal hterminal))
        ⟨h.good.token, hterminal⟩
      cases after <;> rfl
  | retire =>
      have hterminal : s.state.terminal = true := h.good.knows
      cases after with
      | none =>
          exact h.stay rfl rfl rfl h.balanced.target (fun _ => hterminal)
            (fun _ => leaves_of_eq rfl rfl rfl) (good_ended _)
      | some token =>
          exact h.stay rfl rfl rfl h.balanced.target h.balanced.returned nofun
            ⟨h.good.token, .inr hterminal⟩

/-! ### Working -/

/-- A worker that goes on, or that has a result. -/
theorem resumeWork_next {token : Token} {point : WorkPoint} {request : Option TargetRequest}
    (h : resumeWork s token input point = some (request, p')) :
    (∃ point', p' = .work token point') ∨ ∃ result, p' = .complete token (.result result) := by
  unfold resumeWork at h
  split at h <;> (try split at h) <;> (try split at h) <;> (try split at h) <;>
    simp only [Option.some.injEq, Prod.mk.injEq, reduceCtorEq] at h <;>
    (obtain ⟨-, rfl⟩ := h) <;> simp

/-- A job whose worker may work has not ended for its user. -/
theorem not_hasEnded {closing : Nat} (h : Works s closing)
    (hreturned : s.returnedCancelled = true → s.state.terminal = true) : s.hasEnded = false := by
  have hterminal : s.state.terminal = false := by
    by_contra hcontra
    exact not_works_of_terminal (by simpa using hcontra) h
  have hquiet : s.returnedCancelled = false := by
    by_contra hcontra
    rw [hreturned (by simpa using hcontra)] at hterminal
    cases hterminal
  unfold JobRuntime.hasEnded
  rw [hterminal, h.operation, hquiet]
  rfl

/-- A worker asks the target only while its job has not ended. -/
theorem step_work {token : Token} {point : WorkPoint} {request : Option TargetRequest}
    (h : Before s (.work token point) rest)
    (hresume : resumeWork s token input point = some (request, p')) :
    Step s ((request.map s.asks).getD s) (.work token point) p' [] rest := by
  have hworks : Works s (0 + rest.closing) := h.good.knows
  have htoken := h.good.token token rfl
  have hcounts : p'.counts = Control.counts (.work token point) := by
    rcases resumeWork_next hresume with ⟨point', rfl⟩ | ⟨result, rfl⟩ <;> rfl
  have hgood : Good s (0 + rest.closing) p' := by
    rcases resumeWork_next hresume with ⟨point', rfl⟩ | ⟨result, rfl⟩
    · exact ⟨h.good.token, hworks⟩
    · exact ⟨h.good.token, hworks⟩
  cases request with
  | none => exact h.only hcounts hgood
  | some request =>
      refine h.stay hcounts rfl rfl (fun event hevent => ?_) h.balanced.returned nofun ?_
      · rcases List.mem_append.mp hevent with hevent | hevent
        · exact h.balanced.target event hevent
        · obtain rfl := List.mem_singleton.mp hevent
          exact not_hasEnded hworks h.balanced.returned
      · rcases resumeWork_next hresume with ⟨point', rfl⟩ | ⟨result, rfl⟩
        · exact ⟨h.good.token, hworks.state, hworks.operation, hworks.closing⟩
        · exact ⟨h.good.token, hworks.state, hworks.operation, hworks.closing⟩

/-- A worker gives the row back, paused or terminal. -/
theorem step_release {token : Token} {point point' : CompletePoint} {t : JobTransition}
    {state : JobState} (h : Before s (.complete token point) rest)
    (hbefore : Control.counts (.complete token point) =
      { owner := 1, registered := 1, holds := 1, working := 1 })
    (hafter : Control.counts (.complete token point') = { owner := 1, registered := 1 })
    (hworks : Works s (rest.closing)) (hsome : s.state.transition t = some state)
    (hstate : state = .paused ∨ state.terminal = true)
    (hpoint : ∀ s₁ closing, Knows s₁ closing (.complete token point') =
      (s₁.state = .paused ∨ s₁.state.terminal = true)) :
    Step s { s with state := state } (.complete token point) (.complete token point') [] rest := by
  obtain ⟨⟨hone, hmap, -, -, -, -, -, htarget, hreturned⟩, ⟨htoken, -⟩, hfits⟩ := h
  have hholds := hfits.holds
  rw [hbefore] at hone hmap
  have howner : 1 + rest.owner ≤ 1 := hone
  have hclosing := hworks.closing
  have hidle : state.stored ≠ .running ∧ state ≠ .cancelRequested ∧ state.progresses = false := by
    revert hstate
    cases state <;> decide
  have hquiet : s.returnedCancelled = true → state.terminal = true := fun h =>
    absurd hworks (not_works_of_terminal (hreturned h))
  refine ⟨?_, ?_, JobState.later_of_transition hsome, fun h => ?_⟩
  · rw [hafter]
    refine ⟨hone, hmap, ?_, fun h => absurd h hidle.1, ?_, fun h => absurd h hidle.2.1,
      fun h => absurd (show state.progresses = true from h) (by rw [hidle.2.2]; decide), htarget,
      hquiet⟩
    · show 1 ≤ 0 + 0 + rest.holds → _
      omega
    · show 1 ≤ 0 + 0 + rest.closing → _
      omega
  · rintro q hq
    obtain rfl := List.mem_singleton.mp hq
    refine ⟨htoken, ?_⟩
    rw [hpoint]
    exact hstate
  · rw [hbefore] at h
    cases h

/-- What the row of a worker that may work becomes. -/
theorem release_cases {state : JobState} (h : state.progresses = true) :
    state.transition .executionSucceeded = some .succeeded ∧
      state.transition .executionCancelled = some .cancelled ∧
      state.transition .executionFailed = some .failed ∧
      ((state.transition .pauseCompleted = some .paused) ∨
        (state = .cancelRequested ∧ state.transition .pauseCompleted = none)) ∧
      state ≠ .paused := by
  revert h
  cases state <;> decide

/-- A move of a completion keeps what the tasks hold. -/
theorem step_complete {token : Token} {point : CompletePoint}
    (h : Before s (.complete token point) rest) :
    Step s (resumeComplete s token point).1 (.complete token point)
      (resumeComplete s token point).2 [] rest := by
  cases point with
  | result result =>
      have hworks : Works s (0 + rest.closing) := h.good.knows
      rw [Nat.zero_add] at hworks
      obtain ⟨hsucceeded, hcancelled, -, hpaused, hnotPaused⟩ := release_cases hworks.state
      -- the transition of the row decides who answers: a pause may have been lost to a cancellation
      cases result with
      | succeeded =>
          simp only [resumeComplete, hsucceeded]
          exact step_release h rfl rfl hworks hsucceeded (.inr rfl) fun _ _ => rfl
      | cancelled =>
          simp only [resumeComplete, hcancelled]
          exact step_release h rfl rfl hworks hcancelled (.inr rfl) fun _ _ => rfl
      | paused =>
          rcases hpaused with hpaused | ⟨hlost, hpaused⟩
          · simp only [resumeComplete, hpaused]
            exact step_release h rfl rfl hworks hpaused (.inl rfl) fun _ _ => rfl
          · simp only [resumeComplete, hpaused]
            exact h.only rfl ⟨h.good.token, h.good.knows, hlost⟩
      | failed unknown =>
          simp only [resumeComplete, if_neg hnotPaused]
          exact h.only rfl ⟨h.good.token, h.good.knows⟩
  | pauseLost =>
      obtain ⟨hworks, hlost⟩ := h.good.knows
      simp only [resumeComplete, if_pos hlost]
      obtain ⟨⟨hone, hmap, hheld, -, -, -, -, htarget, hreturned⟩, ⟨htoken, -⟩, hfits⟩ := h
      -- the task goes on as the one that finishes the cancelled job
      have hdoomed : s.state.doomed = true := by rw [hlost]; rfl
      refine ⟨⟨hone, hmap, fun _ => ?_, fun h => absurd h (stored_of_doomed hdoomed),
        fun _ => hdoomed, fun _ => ?_, fun _ _ => ?_, htarget, hreturned⟩, ?_, .refl s.state,
        nofun⟩
      · rw [hlost]
        rfl
      · show 1 ≤ 0 + 0 + rest.working + (0 + 0 + rest.pending) + (1 + 0 + rest.closing)
        omega
      · show 1 ≤ 0 + 0 + rest.working + (1 + 0 + rest.closing)
        omega
      · rintro q hq
        obtain rfl := List.mem_singleton.mp hq
        exact ⟨htoken, hdoomed⟩
  | failing unknown =>
      have hworks : Works s (0 + rest.closing) := h.good.knows
      rw [Nat.zero_add] at hworks
      obtain ⟨-, -, hfailed, -, -⟩ := release_cases hworks.state
      simp only [resumeComplete, hfailed]
      exact step_release h rfl rfl hworks hfailed (.inr rfl) fun _ _ => rfl
  | settle target =>
      have hover : s.state = .paused ∨ s.state.terminal = true := h.good.knows
      simp only [resumeComplete]
      unfold JobRuntime.moveOperation
      split
      · exact h.stay rfl rfl rfl h.balanced.target h.balanced.returned nofun
          ⟨h.good.token, hover⟩
      · exact h.only rfl ⟨h.good.token, hover⟩
  | retire =>
      exact h.stay rfl rfl rfl h.balanced.target h.balanced.returned nofun
        ⟨h.good.token, h.good.knows⟩
  | remove =>
      have hover : s.state = .paused ∨ s.state.terminal = true := h.good.knows
      obtain ⟨⟨hone, hmap, hheld, -, hclosing, -, -, htarget, hreturned⟩, -, hfits⟩ := h
      -- the token is taken out last, when the row is paused or over
      have hidle : s.state.stored ≠ .running ∧ s.state ≠ .cancelRequested := by
        revert hover
        cases s.state <;> decide
      have howner : 1 + rest.owner ≤ 1 := hone
      have hregistered := hfits.registered
      have hholds := hfits.holds
      refine ⟨⟨?_, ?_, ?_, fun h => absurd h hidle.1, hclosing, fun h => absurd h hidle.2,
        fun _ => nofun, htarget, hreturned⟩, ?_, .refl s.state, nofun⟩
      · show 0 + 0 + rest.owner ≤ 1
        omega
      · show 0 + 0 + rest.registered = 0
        omega
      · show 1 ≤ 0 + 0 + rest.holds → _
        omega
      · rintro q hq
        obtain rfl := List.mem_singleton.mp hq
        exact good_ended _

/-- Every move of a task keeps what the tasks hold. -/
theorem resume_step {spawned : List Control} (h : Before s p rest) (horder : FindsInOrder s input p)
    (hresume : resume s p input = some (s', p', spawned)) : Step s s' p p' spawned rest := by
  cases p with
  | start point =>
      obtain h' := Option.some.inj hresume
      have hstep := step_start input h horder
      rw [h'] at hstep
      exact hstep
  | pause point =>
      obtain ⟨rfl, rfl, rfl⟩ : _ = s' ∧ _ = p' ∧ [] = spawned := by
        simpa [resume] using hresume
      exact step_pause h
  | cancel point =>
      obtain ⟨rfl, rfl, rfl⟩ : _ = s' ∧ _ = p' ∧ [] = spawned := by
        simpa [resume] using hresume
      exact step_cancel h
  | finish after point =>
      obtain ⟨rfl, rfl, rfl⟩ : _ = s' ∧ _ = p' ∧ [] = spawned := by
        simpa [resume] using hresume
      exact step_finish h
  | work token point =>
      simp only [resume, Option.map_eq_some_iff] at hresume
      obtain ⟨⟨request, control⟩, hwork, heq⟩ := hresume
      cases heq
      exact step_work h hwork
  | complete token point =>
      obtain ⟨rfl, rfl, rfl⟩ : _ = s' ∧ _ = p' ∧ [] = spawned := by
        simpa [resume] using hresume
      exact step_complete h
  | ended => cases hresume

end Dopedb.Jobs
