import Dopedb.Jobs.ExportRun
import Dopedb.Reference

/-!
# Pauses of an export

An export in a resumable format may stop and crash at any point and go on any number of times: the
file it publishes is the file that a run without interruption writes for the same rows. `Sound` says
what the partial file, the checkpoint and a run hold at each point; `step_sound` keeps it as long as
no two of the contents that were hashed share their SHA-256, and as long as a fingerprint of the
catalog stands for one layout.
-/

namespace Dopedb.Jobs

open Dopedb.Library
open Dopedb.Operations (AppError)

variable {σ : Type} {platform : Platform} {files : FileFormats} {catalog : CatalogReader σ}
  {plan : ExportPlan}

/-- The text is a file of these rows without its end, in the layout of a source with this
fingerprint. -/
def Writes (platform : Platform) (catalog : CatalogReader σ) (plan : ExportPlan)
    (fingerprint : String) (layout : ExportLayout) (rows : List Row) (text : List Char) : Prop :=
  (∃ source, catalog.fingerprint source = fingerprint ∧ catalog.layout source = .ok layout) ∧
    fileText platform plan.format layout rows = .ok text

/-- What the file, the writer and the row hold while a run is at a point. -/
def Holds (job : ExportJob) (run : ExportRun) (text : List Char) : ExportPoint → Prop
  | .opened | .paging =>
    run.sink.hashed = utf8 text ∧ run.sink.rows = job.exported ∧
      ∃ part, job.part = some part ∧ part ++ run.sink.buffer = run.sink.hashed
  | .flushing _ =>
    run.sink.hashed = utf8 text ∧
      ∃ part, job.part = some part ∧ part ++ run.sink.buffer = run.sink.hashed
  | .recording _ =>
    run.sink.hashed = utf8 text ∧ run.sink.buffer = [] ∧ job.part = some run.sink.hashed
  | .finishing =>
    run.sink.rows = job.exported ∧
      ∃ part, job.part = some part ∧
        part ++ run.sink.buffer = utf8 text ++ utf8 (footerText run.sink.format)
  | .publishing =>
    run.sink.rows = job.exported ∧ job.part = some (utf8 text ++ utf8 (footerText run.sink.format))
  | .settling =>
    run.sink.rows = job.exported ∧
      job.output = some (utf8 text ++ utf8 (footerText run.sink.format))

/-- What a run knows. -/
structure RunSound (platform : Platform) (catalog : CatalogReader σ) (plan : ExportPlan)
    (job : ExportJob) (point : ExportPoint) (run : ExportRun) : Prop where
  format : run.sink.format = plan.format
  counted : run.sink.rowsWritten = run.sink.rows.length
  holds : ∃ text, Writes platform catalog plan run.source run.sink.layout run.sink.rows text ∧
    Holds job run text point

/-- What the latest checkpoint of a job says. -/
structure CheckpointSound (platform : Platform) (files : FileFormats) (catalog : CatalogReader σ)
    (plan : ExportPlan) (job : ExportJob) (checkpoint : Checkpoint) : Prop where
  digested : ∃ layout text,
    Writes platform catalog plan checkpoint.sourceFingerprint layout job.exported text ∧
      utf8 text ∈ job.digested ∧
      checkpoint.targetFingerprint = lowerHex (files.sha256 (utf8 text))

/-- What an export job holds. -/
structure Sound (platform : Platform) (files : FileFormats) (catalog : CatalogReader σ)
    (plan : ExportPlan) (job : ExportJob) : Prop where
  counted : job.rowsProcessed = job.exported.length
  checkpoint : ∀ checkpoint, job.checkpoint = some checkpoint →
    CheckpointSound platform files catalog plan job checkpoint
  phase : ∀ point run, job.phase = .running point run →
    RunSound platform catalog plan job point run
  published : job.phase = .succeeded → ∃ layout text file fingerprint,
    Writes platform catalog plan fingerprint layout job.exported text ∧
      job.output = some file ∧ file = utf8 text ++ utf8 (footerText plan.format)

/-! ## Moves -/

variable {job job' : ExportJob} {run : ExportRun}

/-- A job without a run keeps what its row and its checkpoint say. -/
theorem Sound.rest (h : Sound platform files catalog plan job) (phase : ExportPhase)
    (hrest : ∀ point run, phase ≠ .running point run) (hended : phase ≠ .succeeded)
    (part : Option (List UInt8)) :
    Sound platform files catalog plan { job with phase := phase, part := part } :=
  ⟨h.counted, fun checkpoint hcheckpoint => ⟨(h.checkpoint checkpoint hcheckpoint).digested⟩,
    fun point run hphase => absurd hphase (hrest point run), fun hphase => absurd hphase hended⟩

/-- A job that fails keeps what its row and its checkpoint say. -/
theorem Sound.fail (h : Sound platform files catalog plan job) (error : AppError) :
    Sound platform files catalog plan (job.fail error) :=
  h.rest (.failed error) nofun nofun job.part

/-- A run that goes on to a point where it holds what it should. -/
theorem Sound.goesTo (h : Sound platform files catalog plan job) (point : ExportPoint)
    (run : ExportRun) (part : Option (List UInt8))
    (hrun : RunSound platform catalog plan ({ job with part := part }.goesTo point run) point run) :
    Sound platform files catalog plan ({ job with part := part }.goesTo point run) := by
  refine ⟨h.counted, fun checkpoint hcheckpoint => ⟨(h.checkpoint checkpoint hcheckpoint).digested⟩,
    fun point' run' hphase => ?_, nofun⟩
  cases hphase
  exact hrun

/-- More hashed contents change nothing. -/
theorem Sound.digest (h : Sound platform files catalog plan job) (bytes : List UInt8) :
    Sound platform files catalog plan { job with digested := job.digested ++ [bytes] } := by
  refine ⟨h.counted, fun checkpoint hcheckpoint => ⟨?_⟩, fun point run hphase => ?_, h.published⟩
  · obtain ⟨layout, text, hwrites, hmem, htarget⟩ := (h.checkpoint checkpoint hcheckpoint).digested
    exact ⟨layout, text, hwrites, List.mem_append_left _ hmem, htarget⟩
  · obtain ⟨hformat, hcounted, text, hwrites, hholds⟩ := h.phase point run hphase
    refine ⟨hformat, hcounted, text, hwrites, ?_⟩
    cases point <;> exact hholds

/-- A checkpoint that a comparison accepts has the fingerprints it is compared with. -/
theorem validate_export_checkpoint_ok {checkpoint : Checkpoint} {source : String}
    {target : Option String}
    (h : validateExportCheckpoint (some checkpoint) source target = .ok ()) :
    checkpoint.sourceFingerprint = source ∧ target = some checkpoint.targetFingerprint := by
  unfold validateExportCheckpoint at h
  simp only at h
  split at h
  · cases h
  · next hsame =>
      push Not at hsame
      exact hsame

/-- A resumable format writes plain text. -/
theorem plain_of_resumable {format : JobFormat} (h : format.resumable = true) :
    format ≠ .xlsx ∧ format.compressed = false := by
  revert h
  cases format <;> decide

/-- A new sink has taken the header. -/
theorem open_new {format : JobFormat} {layout : ExportLayout} {resumeRows : Nat}
    {rows : List Row} {part : Option (List UInt8)} (hformat : format ≠ .xlsx)
    (hrows : resumeRows = 0) :
    ExportSink.open platform format layout resumeRows rows part =
      .ok (({ format, layout, rowsWritten := 0, rows := [] } : ExportSink).write
        (headerText platform format layout), []) := by
  unfold ExportSink.open
  rw [if_neg (by omega), if_neg (by omega)]
  simp only [if_neg hformat]

/-- A resumed sink has taken the content of the file. -/
theorem open_resumed {format : JobFormat} {layout : ExportLayout} {resumeRows : Nat}
    {rows : List Row} {part : Option (List UInt8)} (hformat : format.resumable = true)
    (hrows : 0 < resumeRows) :
    ExportSink.open platform format layout resumeRows rows part =
      .ok ({ format, layout, hashed := part.getD [], rowsWritten := resumeRows, rows },
        part.getD []) := by
  unfold ExportSink.open
  rw [if_neg (by simp [hformat]), if_pos hrows]

/-- A run that begins has the content of the partial file hashed. -/
theorem begin_digested {source : σ} {layout : ExportLayout}
    (h : catalog.layout source = .ok layout) :
    (job.begin platform files catalog plan source).digested =
      job.digested ++ [job.part.getD []] := by
  unfold ExportJob.begin
  simp only [h]
  split
  · rfl
  · split
    · rfl
    · split
      · split <;> rfl
      · rfl

/-- A run that goes on with a file whose SHA-256 is that of the checkpoint goes on with the content
the checkpoint was taken of. -/
theorem begin_sound (h : Sound platform files catalog plan job)
    (hresumable : plan.format.resumable = true)
    (hfaithful : ∀ source source', catalog.fingerprint source = catalog.fingerprint source' →
      catalog.layout source = catalog.layout source') (source : σ)
    (hfree : Set.InjOn files.sha256
      {bytes | bytes ∈ (job.begin platform files catalog plan source).digested}) :
    Sound platform files catalog plan (job.begin platform files catalog plan source) := by
  obtain ⟨hxlsx, hplain⟩ := plain_of_resumable hresumable
  have hdigest := h.digest (job.part.getD [])
  cases hlayout : catalog.layout source with
  | error error =>
      unfold ExportJob.begin
      simp only [hlayout]
      exact h.fail error
  | ok layout =>
      rw [begin_digested hlayout] at hfree
      unfold ExportJob.begin
      simp only [hlayout]
      split
      · next error _ => exact hdigest.fail error
      · rcases Nat.eq_zero_or_pos job.rowsProcessed with hzero | hpos
        · -- Without rows the file is written anew.
          have hnone : job.exported = [] :=
            List.eq_nil_of_length_eq_zero (h.counted.symm.trans hzero)
          rw [open_new hxlsx hzero]
          simp only [if_neg (show ¬ 0 < job.rowsProcessed by omega)]
          refine hdigest.goesTo .opened ⟨catalog.fingerprint source,
            ExportSink.write ⟨plan.format, layout, [], [], 0, []⟩
              (headerText platform plan.format layout)⟩ (some []) ⟨rfl, rfl,
                headerText platform plan.format layout ++ [], ⟨⟨source, rfl, hlayout⟩, rfl⟩, ?_,
                hnone.symm, [], rfl, rfl⟩
          simp [ExportSink.write]
        · rw [open_resumed hresumable hpos]
          simp only [if_pos hpos]
          split
          · next error _ => exact hdigest.rest (.failed error) (by simp) (by simp) _
          · next hvalid =>
              rcases Option.eq_none_or_eq_some job.checkpoint with hcheckpoint |
                ⟨checkpoint, hcheckpoint⟩
              · rw [hcheckpoint] at hvalid
                cases hvalid
              · rw [hcheckpoint] at hvalid
                obtain ⟨hsource, htarget⟩ := validate_export_checkpoint_ok hvalid
                obtain ⟨layout', text, ⟨⟨source', hsource', hlayout'⟩, htext⟩, hmem, hdigested⟩ :=
                  (h.checkpoint checkpoint hcheckpoint).digested
                -- the digest is the one in the checkpoint, and digested contents do not collide
                have hsame : job.part.getD [] = utf8 text := by
                  refine hfree (List.mem_append_right _ (List.mem_singleton.mpr rfl))
                    (List.mem_append_left _ hmem) (lower_hex_inj ?_)
                  unfold ExportSink.fingerprint at htarget
                  rw [if_neg hxlsx] at htarget
                  exact (Option.some.inj htarget).trans hdigested
                -- the source has the fingerprint of the checkpoint, and with it the same layout
                have hlayouts : layout' = layout := by
                  have heq := hfaithful source' source (hsource'.trans hsource)
                  rw [hlayout', hlayout] at heq
                  exact Except.ok.inj heq
                subst hlayouts
                exact hdigest.goesTo .opened ⟨catalog.fingerprint source,
                  ⟨plan.format, layout', job.part.getD [], [], job.rowsProcessed, job.exported⟩⟩
                  (some (job.part.getD [])) ⟨rfl, h.counted, text,
                    ⟨⟨source, rfl, hlayout⟩, htext⟩, hsame, rfl, _, rfl, List.append_nil _⟩

/-- Rows that are written are the next rows of the text. -/
theorem RunSound.written {point : ExportPoint} (h : RunSound platform catalog plan job point run)
    (hxlsx : plan.format ≠ .xlsx) {rows : List Row} {sink : ExportSink} {text : List Char}
    (hwrites : Writes platform catalog plan run.source run.sink.layout run.sink.rows text)
    (hwritten : run.sink.writeRows platform files rows = (none, sink)) :
    ∃ text', Writes platform catalog plan run.source sink.layout sink.rows (text ++ text') ∧
      sink.hashed = run.sink.hashed ++ utf8 text' ∧ sink.buffer = run.sink.buffer ++ utf8 text' ∧
      sink.format = plan.format ∧ sink.rowsWritten = sink.rows.length := by
  have hformat : run.sink.format ≠ .xlsx := by
    rw [h.format]
    exact hxlsx
  obtain ⟨text', htext', hhashed, hbuffer⟩ := ExportSink.write_rows_text hwritten hformat
  obtain ⟨hformat', hlayout', hcount', hrows'⟩ := ExportSink.write_rows_extends hwritten
  refine ⟨text', ⟨?_, ?_⟩, hhashed, hbuffer, hformat'.trans h.format, ?_⟩
  · rw [hlayout']
    exact hwrites.1
  · have hbefore := hwrites.2
    unfold fileText at hbefore ⊢
    split at hbefore
    · next body hbody =>
        obtain rfl := Except.ok.inj hbefore
        rw [h.format, h.counted] at htext'
        have hlength : 0 + run.sink.rows.length = run.sink.rows.length := Nat.zero_add _
        rw [hlayout', hrows', rows_text_append hbody (by rw [hlength]; exact htext'),
          List.append_assoc]
    · cases hbefore
  · rw [hcount', hrows', h.counted, List.length_append]

/-- A page is written, or ends the file. -/
theorem page_sound (h : Sound platform files catalog plan job)
    (hxlsx : plan.format ≠ .xlsx) (hphase : job.phase = .running .paging run)
    (answer : List Row) :
    Sound platform files catalog plan (job.takePage platform files plan run answer) := by
  have hrun := h.phase _ _ hphase
  obtain ⟨text, hwrites, hhashed, hrows, part, hpart, hdisk⟩ := hrun.holds
  unfold ExportJob.takePage
  split
  · exact h.fail _
  · refine h.goesTo .finishing _ job.part ⟨?_, ?_, text, ?_, ?_, part, hpart, ?_⟩
    all_goals unfold ExportSink.finish
    all_goals rw [if_neg (by rw [hrun.format]; exact hxlsx)]
    · exact hrun.format
    · exact hrun.counted
    · exact hwrites
    · exact hrows
    · show part ++ (run.sink.buffer ++ utf8 (footerText run.sink.format)) = _
      rw [← List.append_assoc, hdisk, hhashed]
      rfl
  · split
    · exact h.fail _
    · next sink hwritten =>
        obtain ⟨text', hwrites', hhashed', hbuffer', hformat', hcounted'⟩ :=
          hrun.written hxlsx hwrites hwritten
        refine h.goesTo (.flushing false) _ job.part ⟨hformat', hcounted', text ++ text', hwrites',
          ?_, part, hpart, ?_⟩
        · show sink.hashed = _
          rw [hhashed', hhashed, utf8_append]
        · show part ++ sink.buffer = sink.hashed
          rw [hhashed', hbuffer', ← List.append_assoc, hdisk]

/-- A recorded run has a checkpoint of what it wrote. -/
theorem record_sound (h : Sound platform files catalog plan job)
    (hxlsx : plan.format ≠ .xlsx) {stop : Bool}
    (hphase : job.phase = .running (.recording stop) run) (hok : job.record files run = .ok job') :
    ∃ text, Writes platform catalog plan run.source run.sink.layout run.sink.rows text ∧
      run.sink.hashed = utf8 text ∧ run.sink.buffer = [] ∧ job'.part = some run.sink.hashed ∧
      job'.exported = run.sink.rows ∧ job'.rowsProcessed = job'.exported.length ∧
      ∀ checkpoint, job'.checkpoint = some checkpoint →
        CheckpointSound platform files catalog plan job' checkpoint := by
  have hrun := h.phase _ _ hphase
  obtain ⟨text, hwrites, hhashed, hbuffer, hpart⟩ := hrun.holds
  unfold ExportJob.record at hok
  simp only at hok
  split at hok
  · cases hok
  · next job₁ hupdate =>
      obtain ⟨rfl, -, -⟩ := update_progress_ok hupdate
      obtain rfl := Except.ok.inj hok
      refine ⟨text, hwrites, hhashed, hbuffer, hpart, rfl, hrun.counted, fun checkpoint hcheckpoint =>
        ⟨run.sink.layout, text, ?_, ?_, ?_⟩⟩
      all_goals
        unfold ExportSink.fingerprint at hcheckpoint
        rw [if_neg (by rw [hrun.format]; exact hxlsx)] at hcheckpoint
        obtain rfl := Option.some.inj hcheckpoint
      · exact hwrites
      · rw [← hhashed]
        exact List.mem_append_right _ (List.mem_singleton.mpr rfl)
      · rw [← hhashed]

/-- What a run does at a point keeps what the job holds. -/
theorem proceed_sound (h : Sound platform files catalog plan job)
    (hresumable : plan.format.resumable = true) {point : ExportPoint}
    (hphase : job.phase = .running point run) :
    Sound platform files catalog plan (job.proceed files run point) := by
  obtain ⟨hxlsx, hplain⟩ := plain_of_resumable hresumable
  obtain ⟨hformat, hcounted, text, hwrites, hholds⟩ := h.phase _ _ hphase
  have hxlsx' : run.sink.format ≠ .xlsx := by rwa [hformat]
  have hplain' : ¬ run.sink.format.compressed = true := by simp [hformat, hplain]
  cases point with
  | opened => exact h.goesTo .paging run job.part ⟨hformat, hcounted, text, hwrites, hholds⟩
  | paging => exact h
  | flushing stop =>
      obtain ⟨hhashed, part, hpart, hdisk⟩ := hholds
      -- after the flush the file holds all that was hashed
      have hflushed : run.sink.flushed files (job.part.getD []) = run.sink.hashed := by
        unfold ExportSink.flushed
        rw [if_neg hxlsx', if_neg hplain', hpart]
        exact hdisk
      unfold ExportJob.proceed
      rw [hflushed]
      exact h.goesTo (.recording stop) { run with sink := run.sink.flush } _
        ⟨hformat, hcounted, text, hwrites, hhashed, rfl, rfl⟩
  | recording stop =>
      unfold ExportJob.proceed
      simp only
      split
      · exact h.fail _
      · next job₁ hok =>
          obtain ⟨text₁, hwrites₁, hhashed, hbuffer, hpart, hexported, hcounted₁, hcheckpoint⟩ :=
            record_sound h hxlsx hphase hok
          split
          · exact ⟨hcounted₁, fun checkpoint hc => ⟨(hcheckpoint checkpoint hc).digested⟩, nofun,
              nofun⟩
          · refine ⟨hcounted₁, fun checkpoint hc => ⟨(hcheckpoint checkpoint hc).digested⟩,
              fun point' run' hrunning => ?_, nofun⟩
            cases hrunning
            refine ⟨hformat, hcounted, text₁, hwrites₁, hhashed, hexported.symm, _, hpart, ?_⟩
            rw [hbuffer, List.append_nil]
  | finishing =>
      obtain ⟨hrows, part, hpart, hdisk⟩ := hholds
      have hfinished : run.sink.finished files (job.part.getD []) =
          utf8 text ++ utf8 (footerText run.sink.format) := by
        unfold ExportSink.finished
        rw [if_neg hxlsx', if_neg hplain', hpart]
        exact hdisk
      unfold ExportJob.proceed
      rw [hfinished]
      exact h.goesTo .publishing run _ ⟨hformat, hcounted, text, hwrites, hrows, rfl⟩
  | publishing =>
      obtain ⟨hrows, hpart⟩ := hholds
      refine ⟨h.counted, fun checkpoint hc => ⟨(h.checkpoint checkpoint hc).digested⟩,
        fun point' run' hrunning => ?_, nofun⟩
      cases hrunning
      exact ⟨hformat, hcounted, text, hwrites, hrows, hpart⟩
  | settling =>
      obtain ⟨hrows, houtput⟩ := hholds
      unfold ExportJob.proceed
      simp only
      split
      · exact h.fail _
      · next job₁ hupdate =>
          obtain ⟨rfl, -, -⟩ := update_progress_ok hupdate
          refine ⟨?_, fun checkpoint hc => ⟨(h.checkpoint checkpoint hc).digested⟩, nofun,
            fun _ => ⟨run.sink.layout, text, _, run.source, ?_, houtput, by rw [hformat]⟩⟩
          · show run.sink.rowsWritten = job.exported.length
            rw [hcounted, hrows]
          · show Writes platform catalog plan run.source run.sink.layout job.exported text
            rw [← hrows]
            exact hwrites

/-- Bytes of the buffer that reach the file early keep what the job holds. -/
theorem spill_sound (h : Sound platform files catalog plan job) {point : ExportPoint}
    (hphase : job.phase = .running point run) (bytes : Nat) :
    Sound platform files catalog plan (job.spill point run bytes) := by
  obtain ⟨hformat, hcounted, text, hwrites, hholds⟩ := h.phase _ _ hphase
  unfold ExportJob.spill
  split
  · exact h
  · next hplain =>
      have hmoved : ∀ part : List UInt8,
          part ++ run.sink.buffer.take bytes ++ run.sink.buffer.drop bytes =
            part ++ run.sink.buffer := fun part => by
        rw [List.append_assoc, List.take_append_drop]
      refine h.goesTo point { run with sink := { run.sink with buffer := run.sink.buffer.drop bytes } }
        _ ⟨hformat, hcounted, text, hwrites, ?_⟩
      cases point with
      | opened | paging =>
          obtain ⟨hhashed, hrows, part, hpart, hdisk⟩ := hholds
          refine ⟨hhashed, hrows, _, rfl, ?_⟩
          rw [hpart]
          exact (hmoved part).trans hdisk
      | flushing stop =>
          obtain ⟨hhashed, part, hpart, hdisk⟩ := hholds
          refine ⟨hhashed, _, rfl, ?_⟩
          rw [hpart]
          exact (hmoved part).trans hdisk
      | recording stop =>
          obtain ⟨hhashed, hbuffer, hpart⟩ := hholds
          refine ⟨hhashed, ?_, ?_⟩
          · show run.sink.buffer.drop bytes = []
            rw [hbuffer, List.drop_nil]
          · show some (job.part.getD [] ++ run.sink.buffer.take bytes) = some run.sink.hashed
            rw [hbuffer, hpart, List.take_nil, List.append_nil]
            rfl
      | finishing =>
          obtain ⟨hrows, part, hpart, hdisk⟩ := hholds
          refine ⟨hrows, _, rfl, ?_⟩
          rw [hpart]
          exact (hmoved part).trans hdisk
      | publishing => exact absurd (.inr (.inr (.inl rfl))) hplain
      | settling => exact absurd (.inr (.inr (.inr rfl))) hplain

/-- What was hashed stays hashed. -/
theorem digested_subset (job : ExportJob) (input : ExportInput σ) :
    job.digested ⊆ (exportStep platform files catalog plan job input).digested := by
  unfold exportStep
  split
  · next source _ =>
      cases hlayout : catalog.layout source with
      | error error =>
          unfold ExportJob.begin
          simp only [hlayout]
          exact List.Subset.refl _
      | ok layout =>
          rw [begin_digested hlayout]
          exact List.subset_append_left _ _
  · unfold ExportJob.spill
    split <;> exact List.Subset.refl _
  · exact List.Subset.refl _
  · exact List.Subset.refl _
  · next point run _ =>
      unfold ExportJob.proceed
      split
      · exact List.Subset.refl _
      · exact List.Subset.refl _
      · exact List.Subset.refl _
      · split
        · exact List.Subset.refl _
        · next job₁ hok =>
            unfold ExportJob.record at hok
            simp only at hok
            split at hok
            · cases hok
            · next job₂ hupdate =>
                obtain ⟨rfl, -, -⟩ := update_progress_ok hupdate
                obtain rfl := Except.ok.inj hok
                split <;> exact List.subset_append_left _ _
      · exact List.Subset.refl _
      · exact List.Subset.refl _
      · split
        · exact List.Subset.refl _
        · next job₁ hupdate =>
            obtain ⟨rfl, -, -⟩ := update_progress_ok hupdate
            exact List.Subset.refl _
  · exact List.Subset.refl _
  · exact List.Subset.refl _
  · unfold ExportJob.takePage
    split
    · exact List.Subset.refl _
    · exact List.Subset.refl _
    · split <;> exact List.Subset.refl _
  · exact List.Subset.refl _
  · exact List.Subset.refl _

/-- Every move keeps what the job holds. -/
theorem step_sound (h : Sound platform files catalog plan job)
    (hresumable : plan.format.resumable = true)
    (hfaithful : ∀ source source', catalog.fingerprint source = catalog.fingerprint source' →
      catalog.layout source = catalog.layout source') (input : ExportInput σ)
    (hfree : Set.InjOn files.sha256
      {bytes | bytes ∈ (exportStep platform files catalog plan job input).digested}) :
    Sound platform files catalog plan (exportStep platform files catalog plan job input) := by
  have hxlsx := (plain_of_resumable hresumable).1
  unfold exportStep at hfree ⊢
  split at hfree
  · next source hphase => exact begin_sound h hresumable hfaithful source hfree
  · next hphase => exact spill_sound h hphase _
  · exact h.rest .idle nofun nofun job.part
  · exact h.fail _
  · next hphase => exact proceed_sound h hresumable hphase
  · next run hphase =>
      obtain ⟨hformat, hcounted, text, hwrites, hhashed, -, hdisk⟩ := h.phase _ _ hphase
      exact h.goesTo (.flushing true) run job.part
        ⟨hformat, hcounted, text, hwrites, hhashed, hdisk⟩
  · next run hphase =>
      obtain ⟨hformat, hcounted, text, hwrites, hhashed, -, hdisk⟩ := h.phase _ _ hphase
      exact h.goesTo (.flushing true) run job.part
        ⟨hformat, hcounted, text, hwrites, hhashed, hdisk⟩
  · next hphase => exact page_sound h hxlsx hphase _
  · exact h.rest (.failed _) nofun nofun none
  · exact h

/-! ## Runs -/

/-- A run may begin from this source: it gets as far as opening its sink. -/
def Accepts (platform : Platform) (files : FileFormats) (catalog : CatalogReader σ)
    (plan : ExportPlan) (job : ExportJob) (source : σ) : Prop :=
  job.phase = .idle ∧
    ∃ run, (exportStep platform files catalog plan job (.begin source)).phase = .running .opened run

/-- The file that a job published is the one that a run without interruption writes. -/
def PublishesUninterrupted (platform : Platform) (files : FileFormats) (catalog : CatalogReader σ)
    (plan : ExportPlan) (job : ExportJob) : Prop :=
  ∃ source layout file, catalog.layout source = .ok layout ∧ job.output = some file ∧
    exportFile platform files plan.format layout job.exported = .ok file

/-- A new job holds what it should. -/
theorem sound_new : Sound platform files catalog plan {} := ⟨rfl, nofun, nofun, nofun⟩

/-- A job holds what it should after every run. -/
theorem exported_sound (hresumable : plan.format.resumable = true)
    (hfaithful : ∀ source source', catalog.fingerprint source = catalog.fingerprint source' →
      catalog.layout source = catalog.layout source') (moves : List (ExportInput σ))
    (hfree : Set.InjOn files.sha256
      {bytes | bytes ∈ (exported platform files catalog plan moves).digested}) :
    Sound platform files catalog plan (exported platform files catalog plan moves) := by
  revert hfree
  refine run_invariant (P := fun job => Set.InjOn files.sha256 {bytes | bytes ∈ job.digested} →
      Sound platform files catalog plan job) (fun _ => sound_new)
    (fun job input hjob hstep => ?_) moves
  exact step_sound (hjob (hstep.mono fun bytes hbytes => digested_subset job input hbytes))
    hresumable hfaithful input hstep

/-- A run that begins has compared the partial file with the checkpoint. -/
theorem accepts_checked {source : σ} (hresumable : plan.format.resumable = true)
    (haccepts : Accepts platform files catalog plan job source) {checkpoint : Checkpoint}
    (hcheckpoint : job.checkpoint = some checkpoint) :
    checkpoint.targetFingerprint = lowerHex (files.sha256 (job.part.getD [])) := by
  obtain ⟨hxlsx, -⟩ := plain_of_resumable hresumable
  obtain ⟨hidle, run, hphase⟩ := haccepts
  unfold exportStep at hphase
  rw [hidle] at hphase
  simp only at hphase
  unfold ExportJob.begin at hphase
  split at hphase
  · cases hphase
  · next layout hlayout =>
      simp only at hphase
      split at hphase
      · cases hphase
      · next hcheck =>
          rcases Nat.eq_zero_or_pos job.rowsProcessed with hzero | hpos
          · unfold ExportJob.checkResume at hcheck
            simp only [hcheckpoint, if_pos hzero] at hcheck
            split at hcheck
            · cases hcheck
            · cases hpart : job.part with
              | none =>
                  rw [hpart] at hcheck
                  cases hcheck
              | some part =>
                  rw [hpart] at hcheck
                  have hsame := (validate_export_checkpoint_ok hcheck).2
                  exact (Option.some.inj hsame).symm
          · rw [open_resumed hresumable hpos] at hphase
            simp only [if_pos hpos] at hphase
            split at hphase
            · cases hphase
            · next hvalid =>
                rw [hcheckpoint] at hvalid
                have hsame := (validate_export_checkpoint_ok hvalid).2
                unfold ExportSink.fingerprint at hsame
                rw [if_neg hxlsx] at hsame
                exact (Option.some.inj hsame).symm

/-- Pausing an export is invisible in its output: after any run of moves, a job that has succeeded
has published the file that a run without interruption writes for the rows of the job, and a resume
is accepted only on a partial file that has the SHA-256 of the checkpoint. -/
theorem export_pauses_invisible (hresumable : plan.format.resumable = true)
    (hfaithful : ∀ source source', catalog.fingerprint source = catalog.fingerprint source' →
      catalog.layout source = catalog.layout source') (moves : List (ExportInput σ))
    (hfree : Set.InjOn files.sha256
      {bytes | bytes ∈ (exported platform files catalog plan moves).digested}) :
    ((exported platform files catalog plan moves).phase = .succeeded →
      PublishesUninterrupted platform files catalog plan
        (exported platform files catalog plan moves)) ∧
    ∀ source, Accepts platform files catalog plan (exported platform files catalog plan moves)
        source →
      ∀ checkpoint, (exported platform files catalog plan moves).checkpoint = some checkpoint →
        checkpoint.targetFingerprint = lowerHex (files.sha256
          ((exported platform files catalog plan moves).part.getD [])) := by
  have hsound := exported_sound hresumable hfaithful moves hfree
  refine ⟨fun hsucceeded => ?_, fun source haccepts checkpoint hcheckpoint =>
    accepts_checked hresumable haccepts hcheckpoint⟩
  obtain ⟨layout, text, file, fingerprint, ⟨⟨source, -, hlayout⟩, htext⟩, houtput, rfl⟩ :=
    hsound.published hsucceeded
  exact ⟨source, layout, _, hlayout, houtput, export_file_of_text hresumable htext⟩

/-- The files of the sample, none of which is compressed or a workbook. -/
def sampleFiles : FileFormats where
  sha256 bytes := Sha256.digest (bytes.map UInt8.toNat)
  deflated bytes := bytes
  gzip bytes := bytes
  workbook _ _ := []
  worksheetRow _ := .ok ()
  deflated_le _ _ := by simp
  gzip_le _ _ := by simp

/-- A catalog with one relation of one text column. -/
def sampleCatalog : CatalogReader Unit where
  fingerprint _ := String.ofList (List.replicate 64 'a')
  layout _ := .ok ⟨["id"], [.text], quoteIdentifier .sqlite "notes", .sqlite⟩

/-- An export of it as CSV. -/
def samplePlan : ExportPlan := ⟨.csv, 100, by decide⟩

/-- The export stops before its first row, goes on, crashes after it has recorded the row, and goes
on to its end. -/
def stoppedExport : List (ExportInput Unit) :=
  [.begin (), .proceed, .cancelled, .proceed, .proceed, .begin (), .proceed, .page [[.str "a"]],
    .spill 2, .proceed, .proceed, .crash, .begin (), .proceed, .page [[.str "a"]], .proceed,
    .proceed, .proceed]

theorem stopped_export_uninterrupted :
    PublishesUninterrupted Reference.platform sampleFiles sampleCatalog samplePlan
      (exported Reference.platform sampleFiles sampleCatalog samplePlan stoppedExport) := by
  have hfree : ∀ first ∈ (exported Reference.platform sampleFiles sampleCatalog samplePlan
        stoppedExport).digested,
      ∀ second ∈ (exported Reference.platform sampleFiles sampleCatalog samplePlan
        stoppedExport).digested,
      sampleFiles.sha256 first = sampleFiles.sha256 second → first = second := by
    decide
  exact (export_pauses_invisible (by decide) (fun _ _ _ => rfl) stoppedExport
    fun first hfirst second hsecond => hfree first hfirst second hsecond).1 (by decide)

end Dopedb.Jobs
