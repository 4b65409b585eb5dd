import Dopedb.Jobs.ExportResume
import Dopedb.Library.Framing
import Dopedb.Library.Paging

/-!
# Pages of an export

An export asks for its relation page by page, each page with a query of its own that orders by the
primary key or, without one, by the first exported column. Rows that tie may come in another order
in the next query, so a page boundary among them may lose one and repeat another. `complete_iff`
says that every successful export of a table is complete exactly when no page boundary falls among
tying rows that differ in the exported columns.
-/

namespace Dopedb.Jobs

open Dopedb.Library
open Dopedb.Operations (AppError)

/-! ## Pages -/

section Page

variable {platform : Platform} {maxRows maxBytes kept retained : Nat} {answer rows : List Row}

/-- A page is the beginning of what is left of an answer. -/
theorem stream_leading (h : streamByteCapped platform maxRows maxBytes kept retained answer =
    .ok rows) : rows <+: answer := by
  induction answer generalizing kept retained rows with
  | nil =>
      obtain rfl := Except.ok.inj h
      exact List.prefix_refl _
  | cons row rest ih =>
      unfold streamByteCapped at h
      split at h
      · obtain rfl := Except.ok.inj h
        exact List.nil_prefix
      · split at h
        · cases h
        · split at h
          · obtain rfl := Except.ok.inj h
            exact List.nil_prefix
          · split at h
            · next rows' hrest =>
                obtain rfl := Except.ok.inj h
                exact (List.prefix_cons_inj row).mpr (ih hrest)
            · cases h

/-- The first row of an answer is kept. -/
theorem stream_nonempty (hkept : kept < maxRows) (hanswer : answer ≠ [])
    (h : streamByteCapped platform maxRows maxBytes kept 0 answer = .ok rows) : rows ≠ [] := by
  cases answer with
  | nil => exact absurd rfl hanswer
  | cons row rest =>
      unfold streamByteCapped at h
      rw [if_neg (by omega)] at h
      split at h
      · cases h
      · next hfits =>
          rw [if_neg (by omega)] at h
          split at h
          · obtain rfl := Except.ok.inj h
            exact List.cons_ne_nil _ _
          · cases h

/-- Rows within the byte limit can be read. -/
theorem stream_ok (hfits : ∀ row ∈ answer, rowBytes platform row ≤ maxBytes) :
    ∃ rows, streamByteCapped platform maxRows maxBytes kept retained answer = .ok rows := by
  induction answer generalizing kept retained with
  | nil => exact ⟨[], rfl⟩
  | cons row rest ih =>
      unfold streamByteCapped
      split
      · exact ⟨[], rfl⟩
      · have hrow := hfits row List.mem_cons_self
        rw [if_neg (by omega)]
        split
        · exact ⟨[], rfl⟩
        · obtain ⟨rows, hrest⟩ := @ih (kept + 1) (retained + rowBytes platform row)
            fun row' hrow' => hfits row' (List.mem_cons_of_mem _ hrow')
          exact ⟨row :: rows, by rw [hrest]⟩

variable {plan : ExportPlan} {offset : Nat}

/-- A page goes on where the rows before it end. -/
theorem page_take (h : fetchPage platform plan offset answer = .ok rows) :
    answer.take (offset + rows.length) = answer.take offset ++ rows := by
  have hleading : rows <+: answer.drop offset :=
    (stream_leading h).trans (List.take_prefix _ _)
  rw [List.take_add, ← List.prefix_iff_eq_take.mp hleading]

/-- A page without rows is behind the last row. -/
theorem page_end (h : fetchPage platform plan offset answer = .ok []) : answer.length ≤ offset := by
  by_contra hlt
  have hrest : (answer.drop offset).take plan.batchSize ≠ [] := by
    intro hnil
    have hlength := congrArg List.length hnil
    rw [List.length_take, List.length_drop, List.length_nil] at hlength
    have hvalid := plan.valid.1
    omega
  have hvalid := plan.valid.1
  exact stream_nonempty (by omega) hrest h rfl

/-- A page has rows while there are any. -/
theorem page_ok (plan : ExportPlan) (offset : Nat)
    (hfits : ∀ row ∈ answer, rowBytes platform row ≤ MAX_EXPORT_BATCH_BYTES) :
    ∃ rows, fetchPage platform plan offset answer = .ok rows :=
  stream_ok fun row hrow => hfits row (List.mem_of_mem_drop (List.mem_of_mem_take hrow))

end Page

/-! ## Completeness -/

section Table

variable {σ ρ κ : Type} [LinearOrder κ] (platform : Platform) (files : FileFormats)
  (catalog : CatalogReader σ) (plan : ExportPlan) (key : ρ → κ) (project : ρ → Row)
  (table : List ρ)

/-- The database answers a page with the table in key order. -/
def AnswersTable (_ : ExportJob) (input : ExportInput σ) : Prop :=
  ∀ rows, input = .page rows → ∃ answer, Answer key table answer ∧ rows = answer.map project

/-- Every successful export of the table has written every row of it once and no other row. -/
def Complete : Prop :=
  ∀ moves, EachCall (exportStep platform files catalog plan) (AnswersTable key project table) {}
    moves → (exported platform files catalog plan moves).phase = .succeeded →
    (exported platform files catalog plan moves).exported.Perm (table.map project)

/-- Where a page may begin. -/
inductive PageBoundary : Nat → Prop where
  | first : PageBoundary 0
  | next {offset : Nat} {answer : List ρ} {rows : List Row} : PageBoundary offset →
      Answer key table answer →
      fetchPage platform plan offset (answer.map project) = .ok rows →
      PageBoundary (offset + rows.length)

/-- No page begins among tying rows that differ in the exported columns. -/
def BoundariesSeparated : Prop :=
  ∀ offset, PageBoundary platform plan key project table offset →
    Separated key project table offset

variable {platform files catalog plan key project table}

/-- Rows that an export has written so far: as many as come before a page boundary, and those that
every answer has before it. -/
structure Covered (platform : Platform) (plan : ExportPlan) (key : ρ → κ) (project : ρ → Row)
    (table : List ρ) (rows : List Row) : Prop where
  boundary : PageBoundary platform plan key project table rows.length
  rows : ∀ answer, Answer key table answer →
    rows.Perm ((answer.take rows.length).map project)

/-- No rows are covered. -/
theorem covered_nil : Covered platform plan key project table [] :=
  ⟨.first, fun _ _ => by simp⟩

/-- A page extends what is covered. -/
theorem Covered.page {rows page : List Row} {answer : List ρ}
    (h : Covered platform plan key project table rows)
    (hseparated : BoundariesSeparated platform plan key project table)
    (hanswer : Answer key table answer)
    (hpage : fetchPage platform plan rows.length (answer.map project) = .ok page) :
    Covered platform plan key project table (rows ++ page) := by
  have hboundary : PageBoundary platform plan key project table (rows ++ page).length := by
    rw [List.length_append]
    exact .next h.boundary hanswer hpage
  refine ⟨hboundary, fun answer' hanswer' => ?_⟩
  have hsame := take_perm hanswer hanswer' (hseparated _ hboundary)
  refine List.Perm.trans ?_ hsame
  rw [List.map_take, List.length_append, page_take hpage, ← List.map_take]
  exact (h.rows answer hanswer).append_right page

/-- What an export has covered at each point. -/
structure RunCovers (platform : Platform) (plan : ExportPlan) (key : ρ → κ) (project : ρ → Row)
    (table : List ρ) (job : ExportJob) (point : ExportPoint) (run : ExportRun) : Prop where
  counted : run.sink.rowsWritten = run.sink.rows.length
  covered : Covered platform plan key project table run.sink.rows
  kept : (∀ stop, point ≠ .flushing stop ∧ point ≠ .recording stop) →
    run.sink.rows = job.exported
  all : point = .finishing ∨ point = .publishing ∨ point = .settling →
    run.sink.rows.Perm (table.map project)

/-- What an export job has covered. -/
structure Covers (platform : Platform) (plan : ExportPlan) (key : ρ → κ) (project : ρ → Row)
    (table : List ρ) (job : ExportJob) : Prop where
  counted : job.rowsProcessed = job.exported.length
  covered : Covered platform plan key project table job.exported
  running : ∀ point run, job.phase = .running point run →
    RunCovers platform plan key project table job point run
  succeeded : job.phase = .succeeded → job.exported.Perm (table.map project)

variable {job job' : ExportJob} {run : ExportRun}

/-- A job whose row stays covers what it did. -/
theorem Covers.stay (h : Covers platform plan key project table job)
    (hcounted : job'.rowsProcessed = job.rowsProcessed) (hexported : job'.exported = job.exported)
    (hrunning : ∀ point run, job'.phase = .running point run →
      RunCovers platform plan key project table job' point run)
    (hended : job'.phase ≠ .succeeded) : Covers platform plan key project table job' := by
  refine ⟨?_, ?_, hrunning, fun hphase => absurd hphase hended⟩
  · rw [hcounted, hexported]
    exact h.counted
  · rw [hexported]
    exact h.covered

/-- A job that fails covers what it did. -/
theorem Covers.fail (h : Covers platform plan key project table job) (error : AppError) :
    Covers platform plan key project table (job.fail error) :=
  h.stay rfl rfl nofun nofun

/-- A sink starts with the rows that its job counts. -/
theorem open_rows {format : JobFormat} {layout : ExportLayout} {resumeRows : Nat}
    {rows : List Row} {part : Option (List UInt8)} {sink : ExportSink} {content : List UInt8}
    (hcounted : resumeRows = rows.length)
    (h : ExportSink.open platform format layout resumeRows rows part = .ok (sink, content)) :
    sink.rows = rows ∧ sink.rowsWritten = sink.rows.length := by
  unfold ExportSink.open at h
  split at h
  · cases h
  · split at h
    · cases h
      exact ⟨rfl, hcounted⟩
    · next hzero =>
        have hnil : rows = [] := List.eq_nil_of_length_eq_zero (by omega)
        cases h
        rw [hnil]
        split <;> exact ⟨rfl, rfl⟩

/-- A run that begins has what its job counts. -/
theorem begin_covers (h : Covers platform plan key project table job) (source : σ) :
    Covers platform plan key project table (job.begin platform files catalog plan source) := by
  unfold ExportJob.begin
  split
  · exact h.fail _
  · simp only
    split
    · exact h.stay rfl rfl nofun nofun
    · split
      · exact h.stay rfl rfl nofun nofun
      · next sink part hopen =>
          obtain ⟨hrows, hwritten⟩ := open_rows h.counted hopen
          have hrun : ∀ point run, ExportPhase.running .opened ⟨catalog.fingerprint source, sink⟩ =
              .running point run → RunCovers platform plan key project table
                { job with part := some part, digested := job.digested ++ [job.part.getD []],
                           phase := .running .opened ⟨catalog.fingerprint source, sink⟩ }
                point run := by
            intro point run hphase
            cases hphase
            refine ⟨hwritten, ?_, fun _ => hrows, by simp⟩
            rw [hrows]
            exact h.covered
          split
          · split
            · exact h.stay rfl rfl nofun nofun
            · exact h.stay rfl rfl hrun nofun
          · exact h.stay rfl rfl hrun nofun

/-- A page is covered, or there are no more rows. -/
theorem page_covers (h : Covers platform plan key project table job)
    (hseparated : BoundariesSeparated platform plan key project table)
    (hphase : job.phase = .running .paging run) {answer : List ρ}
    (hanswer : Answer key table answer) :
    Covers platform plan key project table
      (job.takePage platform files plan run (answer.map project)) := by
  obtain ⟨hcounted, hcovered, hkept, -⟩ := h.running _ _ hphase
  have hrows : run.sink.rows = job.exported := hkept fun _ => ⟨nofun, nofun⟩
  unfold ExportJob.takePage
  split
  · exact h.fail _
  · next hpage =>
      refine h.stay rfl rfl (fun point run' hrunning => ?_) nofun
      cases hrunning
      have hsink : run.sink.finish.rows = run.sink.rows ∧
          run.sink.finish.rowsWritten = run.sink.rowsWritten := by
        unfold ExportSink.finish
        split <;> exact ⟨rfl, rfl⟩
      have hall : run.sink.rows.Perm (table.map project) := by
        have hend := page_end hpage
        rw [hcounted, List.length_map] at hend
        have hperm := hcovered.rows answer hanswer
        rw [List.take_of_length_le hend] at hperm
        exact hperm.trans (hanswer.perm.map project)
      refine ⟨?_, ?_, fun _ => hsink.1.trans hrows, fun _ => ?_⟩
      · rw [hsink.1, hsink.2]
        exact hcounted
      · rw [hsink.1]
        exact hcovered
      · rw [hsink.1]
        exact hall
  · next page hpage =>
      split
      · exact h.fail _
      · next sink hwritten =>
          obtain ⟨-, -, hcount', hrows'⟩ := ExportSink.write_rows_extends hwritten
          refine h.stay rfl rfl (fun point run' hrunning => ?_) nofun
          cases hrunning
          refine ⟨?_, ?_, fun hpoint => absurd rfl (hpoint false).1, by simp⟩
          · rw [hcount', hrows', hcounted, List.length_append]
          · rw [hcounted] at hpage
            rw [hrows']
            exact hcovered.page hseparated hanswer hpage

/-- What a run does at a point keeps what is covered. -/
theorem proceed_covers (h : Covers platform plan key project table job) {point : ExportPoint}
    (hphase : job.phase = .running point run) :
    Covers platform plan key project table (job.proceed files run point) := by
  obtain ⟨hcounted, hcovered, hkept, hall⟩ := h.running _ _ hphase
  -- rows are covered when they are recorded, and the last point has recorded them all
  cases point with
  | opened =>
      refine h.stay rfl rfl (fun point' run' hrunning => ?_) nofun
      cases hrunning
      exact ⟨hcounted, hcovered, fun _ => hkept fun _ => ⟨nofun, nofun⟩, by simp⟩
  | paging => exact h
  | flushing stop =>
      refine h.stay rfl rfl (fun point' run' hrunning => ?_) nofun
      cases hrunning
      exact ⟨hcounted, hcovered, fun hpoint => absurd rfl (hpoint stop).2, by simp⟩
  | recording stop =>
      unfold ExportJob.proceed
      simp only
      split
      · exact h.fail _
      · next job₁ hok =>
          unfold ExportJob.record at hok
          simp only at hok
          split at hok
          · cases hok
          · next job₂ hupdate =>
              obtain ⟨rfl, -, -⟩ := update_progress_ok hupdate
              obtain rfl := Except.ok.inj hok
              split
              · exact ⟨hcounted, hcovered, nofun, nofun⟩
              · refine ⟨hcounted, hcovered, fun point' run' hrunning => ?_, nofun⟩
                cases hrunning
                exact ⟨hcounted, hcovered, fun _ => rfl, by simp⟩
  | finishing =>
      refine h.stay rfl rfl (fun point' run' hrunning => ?_) nofun
      cases hrunning
      exact ⟨hcounted, hcovered, fun _ => hkept fun _ => ⟨nofun, nofun⟩,
        fun _ => hall (.inl rfl)⟩
  | publishing =>
      refine h.stay rfl rfl (fun point' run' hrunning => ?_) nofun
      cases hrunning
      exact ⟨hcounted, hcovered, fun _ => hkept fun _ => ⟨nofun, nofun⟩,
        fun _ => hall (.inr (.inl rfl))⟩
  | settling =>
      have hrows : run.sink.rows = job.exported := hkept fun _ => ⟨nofun, nofun⟩
      unfold ExportJob.proceed
      simp only
      split
      · exact h.fail _
      · next job₁ hupdate =>
          obtain ⟨rfl, -, -⟩ := update_progress_ok hupdate
          refine ⟨?_, h.covered, nofun, fun _ => ?_⟩
          · show run.sink.rowsWritten = job.exported.length
            rw [hcounted, hrows]
          · show job.exported.Perm (table.map project)
            rw [← hrows]
            exact hall (.inr (.inr rfl))

/-- A move that the database answers with the table keeps what is covered. -/
theorem step_covers (h : Covers platform plan key project table job)
    (hseparated : BoundariesSeparated platform plan key project table)
    {input : ExportInput σ} (hinput : AnswersTable key project table job input) :
    Covers platform plan key project table (exportStep platform files catalog plan job input) := by
  have hstopped : ∀ {point run}, job.phase = .running point run →
      Covers platform plan key project table (job.goesTo (.flushing true) run) := by
    intro point run hphase
    obtain ⟨hcounted, hcovered, -, -⟩ := h.running _ _ hphase
    refine h.stay rfl rfl (fun point' run' hrunning => ?_) nofun
    cases hrunning
    exact ⟨hcounted, hcovered, fun hpoint => absurd rfl (hpoint true).1, by simp⟩
  unfold exportStep
  split
  · exact begin_covers h _
  · next point run bytes hphase =>
      obtain ⟨hcounted, hcovered, hkept, hall⟩ := h.running _ _ hphase
      unfold ExportJob.spill
      split
      · exact h
      · refine h.stay rfl rfl (fun point' run' hrunning => ?_) nofun
        cases hrunning
        exact ⟨hcounted, hcovered, hkept, hall⟩
  · exact h.stay rfl rfl nofun nofun
  · exact h.fail _
  · next hphase => exact proceed_covers h hphase
  · next hphase => exact hstopped hphase
  · next hphase => exact hstopped hphase
  · next hphase =>
      obtain ⟨answer, hanswer, rfl⟩ := hinput _ rfl
      exact page_covers h hseparated hphase hanswer
  · exact h.stay rfl rfl nofun nofun
  · exact h

/-- A new job covers nothing. -/
theorem covers_new : Covers platform plan key project table {} :=
  ⟨rfl, covered_nil, nofun, nofun⟩

/-- An export whose page boundaries are separated is complete. -/
theorem complete_of_separated (h : BoundariesSeparated platform plan key project table) :
    Complete platform files catalog plan key project table := by
  intro moves hmoves hsucceeded
  have hcovers : Covers platform plan key project table
      (exported platform files catalog plan moves) :=
    run_invariant_of (P := Covers platform plan key project table) covers_new
      (fun job input hjob hinput => step_covers hjob h hinput) hmoves
  exact hcovers.succeeded hsucceeded

/-! ## Exports that can succeed -/

/-- A row that the format can write, into whatever sink. -/
def Writable (platform : Platform) (files : FileFormats) (format : JobFormat)
    (layout : ExportLayout) (row : Row) : Prop :=
  ∀ sink : ExportSink, sink.format = format → sink.layout = layout →
    ∃ sink', sink.writeRow platform files row = .ok sink'

/-- What an export of the table needs to succeed: the relation in the catalog, under a fingerprint
that the ledger accepts, and rows that are small enough and that the format can write. -/
structure Exportable (platform : Platform) (files : FileFormats) (catalog : CatalogReader σ)
    (plan : ExportPlan) (project : ρ → Row) (table : List ρ) (source : σ)
    (layout : ExportLayout) : Prop where
  found : catalog.layout source = .ok layout
  fingerprint : validSha256Fingerprint (catalog.fingerprint source) = true
  fits : ∀ row ∈ table, rowBytes platform (project row) ≤ MAX_EXPORT_BATCH_BYTES
  writable : ∀ row ∈ table, Writable platform files plan.format layout (project row)

/-- A fingerprint that the code computes is one that the ledger accepts. -/
theorem valid_lower_hex (digest : Digest) : validSha256Fingerprint (lowerHex digest) = true := by
  have hsizes : ∀ c ∈ HEX, c.utf8Size = 1 := by simp [HEX, Char.utf8Size]
  have hdigits : ∀ c ∈ HEX, (c.isDigit || (decide ('a' ≤ c) && decide (c ≤ 'f'))) = true := by
    simp [HEX]
  have hlength : (lowerHex digest).toList.length = 64 := by
    rw [lowerHex, String.toList_ofList, List.length_flatMap]
    have htwo : ∀ byte ∈ digest.toList, (hexByte byte).length = 2 := fun _ _ => rfl
    rw [List.map_congr_left htwo]
    simp
  have hsize : (lowerHex digest).utf8ByteSize = 64 := by
    rw [← byte_length_to_list, byteLength,
      List.map_congr_left fun c hc => hsizes c (mem_lower_hex hc)]
    simp [hlength]
  unfold validSha256Fingerprint
  rw [hsize]
  simp only [decide_true, Bool.true_and, List.all_eq_true]
  exact fun c hc => hdigits c (mem_lower_hex hc)

/-- The file of a sink only grows: what is in it now is no more than what a flush, or the end of
the file, will leave. -/
def Backed (files : FileFormats) (sink : ExportSink) (part : List UInt8) : Prop :=
  if sink.format = .xlsx then part = []
  else if sink.format.compressed then
    ∃ first second, sink.hashed = first ++ second ∧ part.length ≤ (files.deflated first).length
  else True

/-- A run that is about to ask for its next page. -/
structure Ready (files : FileFormats) (plan : ExportPlan) (layout : ExportLayout)
    (job : ExportJob) (run : ExportRun) : Prop where
  phase : job.phase = .running .paging run
  format : run.sink.format = plan.format
  layout : run.sink.layout = layout
  source : validSha256Fingerprint run.source = true
  counted : run.sink.rowsWritten = run.sink.rows.length
  rows : run.sink.rows = job.exported
  rowsProcessed : job.rowsProcessed ≤ run.sink.rowsWritten
  bytesProcessed : job.bytesProcessed ≤ (job.part.getD []).length
  backed : Backed files run.sink (job.part.getD [])

/-- Rows that can be written are written. -/
theorem write_rows_of_writable {rows : List Row} {layout : ExportLayout} {format : JobFormat}
    (hrows : ∀ row ∈ rows, Writable platform files format layout row) {sink : ExportSink}
    (hformat : sink.format = format) (hlayout : sink.layout = layout) :
    ∃ sink', sink.writeRows platform files rows = (none, sink') := by
  induction rows generalizing sink with
  | nil => exact ⟨sink, rfl⟩
  | cons row rest ih =>
      obtain ⟨next, hrow⟩ := hrows row List.mem_cons_self sink hformat hlayout
      obtain ⟨hformat', hlayout', -, -⟩ := ExportSink.write_row_extends hrow
      obtain ⟨sink', hrest⟩ := ih (fun row' hrow' => hrows row' (List.mem_cons_of_mem _ hrow'))
        (hformat'.trans hformat) (hlayout'.trans hlayout)
      exact ⟨sink', by rw [ExportSink.writeRows, hrow]; exact hrest⟩

/-- What a sink has hashed stays when it takes rows. -/
theorem write_rows_hashed {rows : List Row} {sink sink' : ExportSink}
    (h : sink.writeRows platform files rows = (none, sink')) :
    ∃ bytes, sink'.hashed = sink.hashed ++ bytes := by
  induction rows generalizing sink with
  | nil =>
      obtain rfl : sink = sink' := by simpa [ExportSink.writeRows] using h
      exact ⟨[], by simp⟩
  | cons row rest ih =>
      unfold ExportSink.writeRows at h
      split at h
      · cases h
      · next next hrow =>
          obtain ⟨bytes, hbytes⟩ := ih h
          unfold ExportSink.writeRow at hrow
          split at hrow
          · split at hrow
            · cases hrow
            · obtain rfl := Except.ok.inj hrow
              exact ⟨bytes, hbytes⟩
          · split at hrow
            · cases hrow
            · next text _ =>
                obtain rfl := Except.ok.inj hrow
                exact ⟨utf8 text ++ bytes, by rw [hbytes, ← List.append_assoc]; rfl⟩

/-- A flush leaves a file that has grown and that the sink still backs. -/
theorem backed_flush {sink sink' : ExportSink} {part : List UInt8} (h : Backed files sink part)
    (hformat : sink'.format = sink.format) (hhashed : ∃ bytes, sink'.hashed = sink.hashed ++ bytes) :
    part.length ≤ (sink'.flushed files part).length ∧
      Backed files sink'.flush (sink'.flushed files part) := by
  obtain ⟨bytes, hbytes⟩ := hhashed
  have hformat' : sink'.flush.format = sink.format := hformat
  unfold Backed at h ⊢
  unfold ExportSink.flushed
  rw [hformat, hformat']
  split at h
  · next hxlsx =>
      rw [if_pos hxlsx, if_pos hxlsx]
      exact ⟨Nat.le_refl _, h⟩
  · next hxlsx =>
      rw [if_neg hxlsx, if_neg hxlsx]
      split at h
      · next hcompressed =>
          obtain ⟨first, second, hsplit, hle⟩ := h
          rw [if_pos hcompressed, if_pos hcompressed]
          refine ⟨hle.trans ?_, sink'.hashed, [], (List.append_nil _).symm, Nat.le_refl _⟩
          rw [hbytes, hsplit, List.append_assoc]
          exact files.deflated_le _ _
      · next hplain =>
          rw [if_neg hplain, if_neg hplain]
          exact ⟨by simp, trivial⟩

/-- The end of a file leaves it no shorter. -/
theorem backed_finished {sink : ExportSink} {part : List UInt8} (h : Backed files sink part) :
    part.length ≤ (sink.finish.finished files part).length := by
  have hformat : sink.finish.format = sink.format := by
    unfold ExportSink.finish
    split <;> rfl
  unfold Backed at h
  unfold ExportSink.finished
  rw [hformat]
  split at h
  · rw [h]
    exact Nat.zero_le _
  · next hxlsx =>
      rw [if_neg hxlsx]
      split at h
      · next hcompressed =>
          obtain ⟨first, second, hsplit, hle⟩ := h
          rw [if_pos hcompressed]
          refine hle.trans ?_
          unfold ExportSink.finish
          rw [if_neg hxlsx]
          show (files.deflated first).length ≤ (files.gzip (sink.hashed ++ _)).length
          rw [hsplit, List.append_assoc]
          exact files.gzip_le _ _
      · next hplain =>
          rw [if_neg hplain]
          simp

/-- Progress that has not gone back is recorded. -/
theorem record_ok (files : FileFormats) (job : ExportJob) (run : ExportRun)
    (hsource : validSha256Fingerprint run.source = true)
    (hrows : job.rowsProcessed ≤ run.sink.rowsWritten)
    (hbytes : job.bytesProcessed ≤ (job.part.getD []).length) :
    ∃ checkpoint, job.record files run = .ok { job with
      rowsProcessed := run.sink.rowsWritten, bytesProcessed := (job.part.getD []).length,
      checkpoint := checkpoint, exported := run.sink.rows,
      digested := job.digested ++ [run.sink.hashed] } := by
  have hvalid : ((run.sink.fingerprint files).map fun target =>
      (⟨run.source, target, (job.part.getD []).length, run.sink.rowsWritten⟩ : Checkpoint)).any
        (fun checkpoint => !validSha256Fingerprint checkpoint.sourceFingerprint ||
          !validSha256Fingerprint checkpoint.targetFingerprint) = false := by
    unfold ExportSink.fingerprint
    split
    · rfl
    · simp [hsource, valid_lower_hex]
  unfold ExportJob.record ExportJob.updateProgress
  simp only [hvalid, Bool.false_eq_true, if_false, if_pos (And.intro hrows hbytes)]
  exact ⟨_, rfl⟩

/-- The moves of a page with rows, and where they lead. -/
theorem page_moves {source : σ} {layout : ExportLayout}
    (hexportable : Exportable platform files catalog plan project table source layout)
    (hready : Ready files plan layout job run) {answer : List ρ} (hanswer : Answer key table answer)
    {page : List Row}
    (hpage : fetchPage platform plan run.sink.rowsWritten (answer.map project) = .ok page)
    (hrows : page ≠ []) :
    ∃ run', Ready files plan layout (Library.run (exportStep platform files catalog plan) job
        [.page (answer.map project), .proceed, .proceed]) run' ∧
      run'.sink.rows = run.sink.rows ++ page := by
  obtain ⟨hphase, hformat, hlayout, hsource, hcounted, hkept, hprocessed, hbytes, hbacked⟩ := hready
  have hwritable : ∀ row ∈ page, Writable platform files plan.format layout row := by
    intro row hrow
    have hmem : row ∈ answer.map project := by
      have hleading := (stream_leading hpage).trans (List.take_prefix _ _)
      exact List.mem_of_mem_drop (hleading.subset hrow)
    obtain ⟨x, hx, rfl⟩ := List.mem_map.mp hmem
    exact hexportable.writable x (hanswer.perm.mem_iff.mp hx)
  obtain ⟨sink, hwritten⟩ := write_rows_of_writable hwritable hformat hlayout
  obtain ⟨hformat', hlayout', hcount', hrows'⟩ := ExportSink.write_rows_extends hwritten
  obtain ⟨hgrown, hbacked'⟩ := backed_flush hbacked hformat' (write_rows_hashed hwritten)
  obtain ⟨first, rest, rfl⟩ := List.exists_cons_of_ne_nil hrows
  let flushed : ExportJob :=
    { job with part := some (sink.flushed files (job.part.getD [])) }.goesTo (.recording false)
      { run with sink := sink.flush }
  -- the page is written, flushed and recorded, one step for each
  have hstep : exportStep platform files catalog plan job (.page (answer.map project)) =
      job.goesTo (.flushing false) { run with sink := sink } := by
    unfold exportStep
    rw [hphase]
    show job.takePage platform files plan run (answer.map project) = _
    unfold ExportJob.takePage
    simp only [hpage, hwritten]
  have hflush : exportStep platform files catalog plan
      (job.goesTo (.flushing false) { run with sink := sink }) .proceed = flushed := rfl
  have hprocessed' : flushed.rowsProcessed ≤ sink.flush.rowsWritten := by
    show job.rowsProcessed ≤ sink.rowsWritten
    omega
  have hbytes' : flushed.bytesProcessed ≤ (flushed.part.getD []).length :=
    hbytes.trans hgrown
  obtain ⟨checkpoint, hrecord⟩ := record_ok files flushed
    { run with sink := sink.flush } hsource hprocessed' hbytes'
  have hrecorded : exportStep platform files catalog plan flushed .proceed =
      { flushed with
        rowsProcessed := sink.rowsWritten, bytesProcessed := (flushed.part.getD []).length,
        checkpoint := checkpoint, exported := sink.rows,
        digested := flushed.digested ++ [sink.hashed],
        phase := .running .paging { run with sink := sink.flush } } := by
    show flushed.proceed files { run with sink := sink.flush } (.recording false) = _
    unfold ExportJob.proceed
    simp only [hrecord]
    rfl
  refine ⟨{ run with sink := sink.flush }, ?_, hrows'⟩
  rw [run_cons, hstep, run_cons, hflush, run_cons, hrecorded, run_nil]
  exact ⟨rfl, hformat'.trans hformat, hlayout'.trans hlayout, hsource, by
    show sink.rowsWritten = sink.rows.length
    rw [hcount', hrows', hcounted, List.length_append], rfl, Nat.le_refl _, Nat.le_refl _,
    hbacked'⟩

/-- The moves of a page without rows: the export succeeds. -/
theorem finish_moves (catalog : CatalogReader σ) {layout : ExportLayout}
    (hready : Ready files plan layout job run)
    {answer : List Row}
    (hpage : fetchPage platform plan run.sink.rowsWritten answer = .ok []) :
    (Library.run (exportStep platform files catalog plan) job
        [.page answer, .proceed, .proceed, .proceed]).phase = .succeeded ∧
      (Library.run (exportStep platform files catalog plan) job
        [.page answer, .proceed, .proceed, .proceed]).exported = run.sink.rows := by
  obtain ⟨hphase, hformat, hlayout, hsource, hcounted, hkept, hprocessed, hbytes, hbacked⟩ := hready
  have hstep : exportStep platform files catalog plan job (.page answer) =
      job.goesTo .finishing { run with sink := run.sink.finish } := by
    unfold exportStep
    rw [hphase]
    show job.takePage platform files plan run answer = _
    unfold ExportJob.takePage
    simp only [hpage]
  have hwritten : run.sink.finish.rowsWritten = run.sink.rowsWritten := by
    unfold ExportSink.finish
    split <;> rfl
  let settled : ExportJob :=
    { job with
      part := none, output := some (run.sink.finish.finished files (job.part.getD [])) }.goesTo
        .settling { run with sink := run.sink.finish }
  have hpublish : exportStep platform files catalog plan (exportStep platform files catalog plan
      (job.goesTo .finishing { run with sink := run.sink.finish }) .proceed) .proceed =
        settled := rfl
  have hgrown : job.bytesProcessed ≤ (run.sink.finish.finished files (job.part.getD [])).length :=
    hbytes.trans (backed_finished hbacked)
  have hsettle : exportStep platform files catalog plan settled .proceed =
      { settled with
        rowsProcessed := run.sink.finish.rowsWritten,
        bytesProcessed := (run.sink.finish.finished files (job.part.getD [])).length,
        phase := .succeeded } := by
    show settled.proceed files { run with sink := run.sink.finish } .settling = _
    unfold ExportJob.proceed ExportJob.updateProgress
    have hguard : settled.rowsProcessed ≤ run.sink.finish.rowsWritten ∧
        settled.bytesProcessed ≤ (settled.output.getD []).length := by
      rw [hwritten]
      exact ⟨hprocessed, hgrown⟩
    simp only [Option.any_none, Bool.false_eq_true, if_false, if_pos hguard]
    rfl
  rw [run_cons, hstep, run_cons, run_cons, hpublish, run_cons, hsettle, run_nil]
  exact ⟨rfl, hkept.symm⟩

/-- Inputs that ask for no page may come whatever the table. -/
theorem each_proceeds (count : Nat) :
    EachCall (exportStep platform files catalog plan) (AnswersTable (σ := σ) key project table) job
      (List.replicate count .proceed) := by
  induction count generalizing job with
  | zero => exact trivial
  | succ count ih => exact ⟨nofun, ih⟩

/-- A run that is ready and gets one answer to all of its pages writes the rest of the answer. -/
theorem rest_moves {source : σ} {layout : ExportLayout}
    (hexportable : Exportable platform files catalog plan project table source layout)
    {answer : List ρ} (hanswer : Answer key table answer)
    (hready : Ready files plan layout job run) :
    ∃ moves, EachCall (exportStep platform files catalog plan) (AnswersTable key project table) job
        moves ∧
      (Library.run (exportStep platform files catalog plan) job moves).phase = .succeeded ∧
      (Library.run (exportStep platform files catalog plan) job moves).exported =
        run.sink.rows ++ (answer.map project).drop run.sink.rowsWritten := by
  obtain ⟨left, hleft⟩ : ∃ left, answer.length - run.sink.rowsWritten = left := ⟨_, rfl⟩
  -- the induction is on the rows of the answer that are not written yet
  induction left using Nat.strong_induction_on generalizing job run with
  | _ left ih =>
      have hfits : ∀ row ∈ answer.map project, rowBytes platform row ≤ MAX_EXPORT_BATCH_BYTES := by
        intro row hrow
        obtain ⟨x, hx, rfl⟩ := List.mem_map.mp hrow
        exact hexportable.fits x (hanswer.perm.mem_iff.mp hx)
      obtain ⟨page, hpage⟩ := page_ok plan run.sink.rowsWritten hfits
      have hfirst : AnswersTable key project table job
          (ExportInput.page (answer.map project) : ExportInput σ) := by
        rintro rows ⟨⟩
        exact ⟨answer, hanswer, rfl⟩
      by_cases hnil : page = []
      · subst hnil
        obtain ⟨hsucceeded, hrows⟩ := finish_moves catalog hready hpage
        refine ⟨[.page (answer.map project), .proceed, .proceed, .proceed],
          ⟨hfirst, each_proceeds 3⟩, hsucceeded, ?_⟩
        rw [List.drop_of_length_le (page_end hpage), List.append_nil]
        exact hrows
      · obtain ⟨run', hready', hrows'⟩ := page_moves hexportable hready hanswer hpage hnil
        have hcount : run'.sink.rowsWritten = run.sink.rowsWritten + page.length := by
          rw [hready'.counted, hrows', hready.counted, List.length_append]
        have hlength := List.length_pos_of_ne_nil hnil
        have hle : run.sink.rowsWritten < answer.length := by
          by_contra hge
          have hleading := (stream_leading hpage).trans (List.take_prefix _ _)
          rw [List.drop_of_length_le (by rw [List.length_map]; omega)] at hleading
          exact hnil (List.prefix_nil.mp hleading)
        obtain ⟨moves, hmoves, hsucceeded, hexported⟩ :=
          ih (answer.length - run'.sink.rowsWritten) (by omega) hready' rfl
        refine ⟨[.page (answer.map project), .proceed, .proceed] ++ moves,
          each_call_append ⟨hfirst, each_proceeds 2⟩ hmoves, ?_, ?_⟩
        · rw [run_append]
          exact hsucceeded
        · rw [run_append, hexported, hrows', hcount, List.append_assoc]
          congr 1
          have htake := page_take hpage
          have hsplit := List.take_append_drop (run.sink.rowsWritten + page.length)
            (answer.map project)
          have hsplit' := List.take_append_drop run.sink.rowsWritten (answer.map project)
          rw [htake, List.append_assoc] at hsplit
          exact List.append_cancel_left (hsplit.trans hsplit'.symm)

/-- The first moves of an export, up to its first page. -/
theorem first_moves {source : σ} {layout : ExportLayout}
    (hexportable : Exportable platform files catalog plan project table source layout) :
    ∃ run, Ready files plan layout
        (exported platform files catalog plan [.begin source, .proceed]) run ∧
      run.sink.rowsWritten = 0 := by
  obtain ⟨sink, hopen, hformat, hlayout, hcount, hrows⟩ : ∃ sink : ExportSink,
      ExportSink.open platform plan.format layout 0 [] none = .ok (sink, []) ∧
        sink.format = plan.format ∧ sink.layout = layout ∧ sink.rowsWritten = 0 ∧
        sink.rows = [] := by
    unfold ExportSink.open
    rw [if_neg (by simp), if_neg (Nat.lt_irrefl 0)]
    refine ⟨_, rfl, ?_, ?_, ?_, ?_⟩ <;> split <;> rfl
  have hbegin : exportStep platform files catalog plan {} (.begin source) =
      ({ part := some [], digested := [[]] } : ExportJob).goesTo .opened
        ⟨catalog.fingerprint source, sink⟩ := by
    show ExportJob.begin platform files catalog plan {} source = _
    unfold ExportJob.begin
    rw [hexportable.found]
    have hcheck : ({ digested := [[]] } : ExportJob).checkResume files
        (catalog.fingerprint source) = .ok () := rfl
    simp only [List.nil_append, Option.getD_none, hcheck, hopen, Nat.lt_irrefl, if_false]
  refine ⟨⟨catalog.fingerprint source, sink⟩, ?_, hcount⟩
  unfold exported
  rw [run_cons, hbegin, run_cons, run_nil]
  refine ⟨rfl, hformat, hlayout, hexportable.fingerprint, ?_, hrows, Nat.zero_le _, Nat.zero_le _,
    ?_⟩
  · show sink.rowsWritten = sink.rows.length
    rw [hcount, hrows]
    rfl
  · show Backed files sink []
    unfold Backed
    split
    · rfl
    · split
      · exact ⟨[], sink.hashed, rfl, Nat.zero_le _⟩
      · trivial

/-- A run can get as far as any page boundary. -/
theorem boundary_moves {source : σ} {layout : ExportLayout}
    (hexportable : Exportable platform files catalog plan project table source layout)
    {offset : Nat} (hboundary : PageBoundary platform plan key project table offset) :
    ∃ moves run, EachCall (exportStep platform files catalog plan)
        (AnswersTable key project table) {} moves ∧
      Ready files plan layout (exported platform files catalog plan moves) run ∧
      run.sink.rowsWritten = offset := by
  induction hboundary with
  | first =>
      obtain ⟨run, hready, hcount⟩ := first_moves hexportable
      exact ⟨[.begin source, .proceed], run, ⟨nofun, nofun, trivial⟩, hready, hcount⟩
  | next hbefore hanswer hpage ih =>
      rename_i offset answer page
      obtain ⟨moves, run, hmoves, hready, rfl⟩ := ih
      by_cases hnil : page = []
      · subst hnil
        exact ⟨moves, run, hmoves, hready, rfl⟩
      · obtain ⟨run', hready', hrows'⟩ := page_moves hexportable hready hanswer hpage hnil
        refine ⟨moves ++ [.page (answer.map project), .proceed, .proceed], run',
          each_call_append hmoves ⟨?_, each_proceeds 2⟩, ?_, ?_⟩
        · rintro rows ⟨⟩
          exact ⟨answer, hanswer, rfl⟩
        · unfold exported
          rw [run_append]
          exact hready'
        · rw [hready'.counted, hrows', hready.counted, List.length_append]

/-- An export that can succeed is complete only where its page boundaries are separated. -/
theorem separated_of_complete {source : σ} {layout : ExportLayout}
    (hexportable : Exportable platform files catalog plan project table source layout)
    (hcomplete : Complete platform files catalog plan key project table) :
    BoundariesSeparated platform plan key project table := by
  intro offset hboundary
  by_contra hnot
  obtain ⟨answer, answer', hanswer, hanswer', hdiffer⟩ := exists_answers_of_not_separated hnot
  obtain ⟨moves, run, hmoves, hready, rfl⟩ := boundary_moves hexportable hboundary
  -- The run goes on with one answer or with the other, and writes the same rows both times.
  have hends : ∀ answer, Answer key table answer →
      (run.sink.rows ++ (answer.map project).drop run.sink.rowsWritten).Perm
        (table.map project) := by
    intro answer hanswer
    obtain ⟨rest, hrest, hsucceeded, hexported⟩ := rest_moves hexportable hanswer hready
    have hwhole := hcomplete (moves ++ rest) (each_call_append hmoves hrest)
    unfold exported at hwhole
    rw [run_append] at hwhole
    have hperm := hwhole hsucceeded
    rw [show (Library.run (exportStep platform files catalog plan)
      (Library.run (exportStep platform files catalog plan) {} moves) rest).exported = _ from
        hexported] at hperm
    exact hperm
  have hsame := (hends answer hanswer).trans (hends answer' hanswer').symm
  rw [List.perm_append_left_iff, ← List.map_drop, ← List.map_drop] at hsame
  exact hdiffer hsame

/-- A table whose rows can be exported is exported completely, whatever order the database chooses
among tying rows in each query, exactly when no page boundary falls among tying rows that differ in
the exported columns. -/
theorem export_complete_iff {source : σ} {layout : ExportLayout}
    (hexportable : Exportable platform files catalog plan project table source layout) :
    Complete platform files catalog plan key project table ↔
      BoundariesSeparated platform plan key project table :=
  ⟨separated_of_complete hexportable, complete_of_separated⟩

end Table

/-- Every row is written to a CSV file. -/
theorem writable_csv (platform : Platform) (files : FileFormats) (layout : ExportLayout)
    (row : Row) : Writable platform files .csv layout row := by
  intro sink hformat _
  unfold ExportSink.writeRow rowText
  rw [hformat]
  exact ⟨_, rfl⟩

/-- A row of a table of visits by day, which has no primary key. -/
def visitRow (visit : Nat) : Row := [.str "2026-01-01", .int visit]

/-- A hundred and one visits on one day. -/
def visits : List Nat := List.range 101

/-- The catalog of the visits. -/
def visitCatalog : CatalogReader Unit where
  fingerprint _ := String.ofList (List.replicate 64 'a')
  layout _ := .ok ⟨["day", "visit"], [.date, .integer], quoteIdentifier .sqlite "visits", .sqlite⟩

/-- A page may have a hundred rows. -/
theorem visit_plan_valid : 100 ≤ 100 ∧ 100 ≤ 10000 := by decide

/-- The export of the visits: its pages have a hundred rows. -/
def visitPlan : ExportPlan := ⟨.csv, 100, visit_plan_valid⟩

set_option maxRecDepth 100000 in
/-- The visits can be exported. -/
theorem visits_exportable (files : FileFormats) :
    Exportable Reference.platform files visitCatalog visitPlan visitRow visits ()
      ⟨["day", "visit"], [.date, .integer], quoteIdentifier .sqlite "visits", .sqlite⟩ :=
  ⟨rfl, by decide, by decide, fun _ _ => writable_csv _ _ _ _⟩

theorem visits_complete_iff :
    Complete Reference.platform sampleFiles visitCatalog visitPlan (fun _ => 0) visitRow visits ↔
      BoundariesSeparated Reference.platform visitPlan (fun _ => 0) visitRow visits :=
  export_complete_iff (visits_exportable sampleFiles)

set_option maxRecDepth 100000 in
/-- The export orders the visits by their day, so all of them tie: the second page may repeat a
visit of the first one and leave out another. -/
theorem tied_visits_incomplete :
    ¬ Complete Reference.platform sampleFiles visitCatalog visitPlan (fun _ => 0) visitRow
      visits := by
  intro hcomplete
  have hanswer : Answer (fun _ : Nat => 0) visits visits :=
    ⟨.refl _, by rw [List.pairwise_map]; exact List.pairwise_of_forall fun _ _ => Nat.le_refl 0⟩
  have hseparated := separated_of_complete (visits_exportable sampleFiles) hcomplete
  have hfits : ∀ row ∈ visits.map visitRow,
      rowBytes Reference.platform row ≤ MAX_EXPORT_BATCH_BYTES := by
    decide
  obtain ⟨page, hpage⟩ := page_ok visitPlan 0 hfits
  have hlength : page.length = 100 := by
    have hcount : (fetchPage Reference.platform visitPlan 0 (visits.map visitRow)).toOption.map
        List.length = some 100 := by
      decide
    rw [hpage] at hcount
    exact Option.some.inj hcount
  have hboundary : PageBoundary Reference.platform visitPlan (fun _ => 0) visitRow visits
      (0 + page.length) := .next .first hanswer hpage
  rw [hlength] at hboundary
  have hsame := hseparated _ hboundary visits hanswer 0 (by decide) 100 (by decide) rfl
  exact absurd hsame (by decide)

end Dopedb.Jobs
