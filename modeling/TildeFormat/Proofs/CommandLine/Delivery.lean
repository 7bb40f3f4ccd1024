/-
A run puts out all of its text or nothing, but for one way to fail: a text
that has no octets, because a half of a surrogate pair is in it, is found
out only when its output file is open already, and then the file stays
empty.

Nothing is put out before the last stage, so a run that fails before it
leaves everything as it was. The last stage has three ends, and what there
is to say about a run is what there is to say about them: the text is put
out whole, or there is no place for it and nothing changes, or the output
file is spoiled.

A file is written by its path alone: the path is looked up with the octets
afterwards, and every other one as before.
-/
import TildeFormat.Proofs.CommandLine.Asking
import TildeFormat.Proofs.CommandLine.Rendering

namespace TildeFormat.CommandLine

variable {libraries : Libraries} {settings : Settings} {i : Invocation}
  {files : Files} {stdout t : Text} {path other : Path}
  {output : Option Path} {fault : Utf8.EncodeFault}

-- =============================================================== files

/-- What is put at a path is found there. -/
theorem Files.lookup_put_self (path : Path) (octets : Octets)
    (entries : List (Path × Octets)) :
    (put path octets entries).lookup path = some octets := by
  induction entries with
  | nil => simp [put]
  | cons entry entries ih =>
      obtain ⟨p, held⟩ := entry
      by_cases hp : p = path
      · simp [put, hp]
      · have hpath : (path == p) = false := by simpa using Ne.symm hp
        simp [put, hp, List.lookup_cons, hpath, ih]

/-- What is put at one path is not looked up at another. -/
theorem Files.lookup_put_of_ne (hother : other ≠ path) (octets : Octets)
    (entries : List (Path × Octets)) :
    (put path octets entries).lookup other = entries.lookup other := by
  have hpath : (other == path) = false := by simpa using hother
  induction entries with
  | nil => simp [put, List.lookup_cons, hpath]
  | cons entry entries ih =>
      obtain ⟨p, held⟩ := entry
      by_cases hp : p = path
      · simp [put, hp, List.lookup_cons, hpath]
      · simp [put, hp, List.lookup_cons, ih]

/-- A path that opens has a name. -/
theorem Files.nameFault_of_opens (h : files.openFault? path = none) :
    path.nameFault? = none := by
  unfold openFault? at h
  split at h
  · cases h
  · assumption

/-- What a path holds is found there, if it has a name. -/
theorem Files.contents_holding_self (h : files.openFault? path = none)
    (octets : Octets) :
    (files.holding path octets).contents? path = some octets := by
  rw [contents?, nameFault_of_opens h]
  exact lookup_put_self path octets files.entries

/-- At every other path there is what was there. -/
theorem Files.contents_holding_of_ne (hother : other ≠ path)
    (octets : Octets) :
    (files.holding path octets).contents? other = files.contents? other := by
  rw [contents?, contents?]
  split
  · rfl
  · exact lookup_put_of_ne hother octets files.entries

-- ====================================================== the last stage

/-- A text fits its output: it has octets, and the output file opens if
there is one. -/
structure Files.Takes (files : Files) (output : Option Path) (t : Text) :
    Prop where
  encodes : ∃ octets, Utf8.encode t = .ok octets
  opens : ∀ path, output = some path → files.openFault? path = none

/-- A text spoils its output file: the file opens, and then the text has
no octets. -/
structure Files.SpoiltBy (files : Files) (output : Option Path) (t : Text)
    (path : Path) (fault : Utf8.EncodeFault) : Prop where
  isOutput : output = some path
  opens : files.openFault? path = none
  fails : Utf8.encode t = .error fault

/-- How a text is put out: on the standard output, or in one file by its
octets. Nothing else changes. -/
inductive Delivered (files : Files) (t : Text) :
    Option Path → Text → Files → Prop where
  | onOutput : Delivered files t none t files
  | inFile {path : Path} {octets : Octets} {after : Files}
      (hoctets : Utf8.encode t = .ok octets)
      (hpath : after.contents? path = some octets)
      (hothers : ∀ other, other ≠ path →
        after.contents? other = files.contents? other)
      (hdirectories : after.directories = files.directories) :
      Delivered files t (some path) [] after

/-- A text that fits is put out. -/
theorem putOut_of_takes (h : files.Takes output t) :
    ∃ stdout, (putOut output files t).stage.result = .ok stdout
      ∧ Delivered files t output stdout (putOut output files t).files := by
  obtain ⟨octets, hoctets⟩ := h.encodes
  cases output with
  | none =>
      simp only [putOut, hoctets]
      exact ⟨t, rfl, .onOutput⟩
  | some path =>
      have hopens := h.opens path rfl
      simp only [putOut, Files.write, hopens, hoctets]
      exact ⟨[], rfl, .inFile hoctets
        (Files.contents_holding_self hopens octets)
        (fun _ hother => Files.contents_holding_of_ne hother octets) rfl⟩

/-- A text that spoils its output file leaves it empty. -/
theorem putOut_of_spoiltBy (h : files.SpoiltBy output t path fault) :
    (putOut output files t).stage.result
        = .error (.crash (.unencodable fault))
      ∧ (putOut output files t).files = files.holding path [] := by
  obtain ⟨rfl, hopens, hfails⟩ := h
  constructor
  · simp [putOut, Files.write, hopens, hfails, Complaint.ofWriting]
  · simp [putOut, Files.write, hopens, hfails]

/-- A text that neither fits nor spoils a file changes nothing. -/
theorem putOut_of_not_takes (h : ¬files.Takes output t)
    (hspoils : ∀ path fault, ¬files.SpoiltBy output t path fault) :
    (∃ complaint, (putOut output files t).stage.result = .error complaint)
      ∧ (putOut output files t).files = files := by
  cases output with
  | none =>
      cases hencode : Utf8.encode t with
      | ok octets => exact absurd ⟨⟨octets, hencode⟩, nofun⟩ h
      | error fault =>
          refine ⟨⟨.crash (.unencodable fault), ?_⟩, ?_⟩
          · simp [putOut, hencode]
          · simp [putOut, hencode]
  | some path =>
      cases hopens : files.openFault? path with
      | some fault =>
          refine ⟨⟨.ofWriting path (.unopened fault), ?_⟩, ?_⟩
          · simp [putOut, Files.write, hopens]
          · simp [putOut, Files.write, hopens]
      | none =>
          cases hencode : Utf8.encode t with
          | ok octets =>
              refine absurd ⟨⟨octets, hencode⟩, ?_⟩ h
              rintro _ ⟨⟩
              exact hopens
          | error fault =>
              exact absurd ⟨rfl, hopens, hencode⟩ (hspoils path fault)

-- ================================================================ runs

/-- No complaint is a success. -/
theorem Complaint.outcome_ne (complaint : Complaint) :
    complaint.outcome ≠ .exit 0 := by
  cases complaint <;> simp [outcome]

/-- What is rendered is put out. -/
theorem deliver_of_ok (output : Option Path) (files : Files)
    {rendering : Stage Text} (h : rendering.result = .ok t) :
    (deliver output files rendering).stage.result
        = (putOut output files t).stage.result
      ∧ (deliver output files rendering).files
        = (putOut output files t).files := by
  simp [deliver, h, Stage.andThen]

/-- Where nothing is rendered nothing is put out. -/
theorem deliver_of_error (output : Option Path) (files : Files)
    {rendering : Stage Text} {complaint : Complaint}
    (h : rendering.result = .error complaint) :
    (deliver output files rendering).stage.result = .error complaint
      ∧ (deliver output files rendering).files = files := by
  simp [deliver, h]

/-- A delivery is reported with what it puts out, or with a complaint and
nothing on the standard output. -/
theorem Delivery.report_of_ok {delivery : Delivery}
    (h : delivery.stage.result = .ok stdout) (verbosity : Nat)
    (full : Bool) :
    let report := delivery.report verbosity full
    report.outcome = .exit 0 ∧ report.stdout = stdout
      ∧ report.files = delivery.files := by
  simp [report, h]

/-- A delivery that fails is reported with its complaint, and with the
files as it leaves them. -/
theorem Delivery.report_of_error {delivery : Delivery}
    {complaint : Complaint} (h : delivery.stage.result = .error complaint)
    (verbosity : Nat) (full : Bool) :
    let report := delivery.report verbosity full
    report.outcome = complaint.outcome ∧ report.stdout = []
      ∧ report.files = delivery.files := by
  simp [report, h]

/-- A run renders what its invocation does: its formatter keeps nothing
yet. -/
theorem renderTask_start_eq_ok_iff :
    (renderTask libraries (startFormatter settings) i files).result = .ok t
      ↔ i.Renders libraries settings files t :=
  renderTask_eq_ok_iff
    (Session.sound_start settings.cacheMaxsize fun _ => [])

/-- A run whose text is put out succeeds with it. -/
theorem execute_of_putOut (h : i.Renders libraries settings files t)
    (hput : (putOut i.output files t).stage.result = .ok stdout) :
    let report := execute libraries settings i files
    report.outcome = .exit 0 ∧ report.stdout = stdout
      ∧ report.files = (putOut i.output files t).files := by
  obtain ⟨hresult, hfiles⟩ := deliver_of_ok i.output files
    (renderTask_start_eq_ok_iff.mpr h)
  rw [execute, ← hfiles]
  exact Delivery.report_of_ok (hresult.trans hput) _ _

/-- A run whose text is not put out fails with what keeps it from that. -/
theorem execute_of_putOut_error (h : i.Renders libraries settings files t)
    {complaint : Complaint}
    (hput : (putOut i.output files t).stage.result = .error complaint) :
    let report := execute libraries settings i files
    report.outcome = complaint.outcome ∧ report.stdout = []
      ∧ report.files = (putOut i.output files t).files := by
  obtain ⟨hresult, hfiles⟩ := deliver_of_ok i.output files
    (renderTask_start_eq_ok_iff.mpr h)
  rw [execute, ← hfiles]
  exact Delivery.report_of_error (hresult.trans hput) _ _

/-- A run without a text fails, and changes nothing. -/
theorem execute_of_not_renders
    (h : ∀ t, ¬i.Renders libraries settings files t) :
    let report := execute libraries settings i files
    report.outcome ≠ .exit 0 ∧ report.stdout = []
      ∧ report.files = files := by
  cases hresult : (renderTask libraries (startFormatter settings) i
      files).result with
  | ok t => exact absurd (renderTask_start_eq_ok_iff.mp hresult) (h t)
  | error complaint =>
      obtain ⟨hends, hfiles⟩ := deliver_of_error i.output files hresult
      obtain ⟨houtcome, hstdout, hafter⟩ := Delivery.report_of_error hends
        i.verbosity (settings.debugMode || decide (3 ≤ i.verbosity))
      refine ⟨?_, hstdout, hafter.trans hfiles⟩
      rw [execute, houtcome]
      exact complaint.outcome_ne

/-- A text that fits its output is put out by the run. -/
theorem execute_of_takes (h : i.Renders libraries settings files t)
    (htakes : files.Takes i.output t) :
    let report := execute libraries settings i files
    report.outcome = .exit 0
      ∧ Delivered files t i.output report.stdout report.files := by
  obtain ⟨stdout, hput, hdelivered⟩ := putOut_of_takes htakes
  obtain ⟨houtcome, hstdout, hafter⟩ := execute_of_putOut h hput
  refine ⟨houtcome, ?_⟩
  rw [hstdout, hafter]
  exact hdelivered

/-- A text that spoils its output file ends the run. -/
theorem execute_of_spoiltBy (h : i.Renders libraries settings files t)
    (hspoilt : files.SpoiltBy i.output t path fault) :
    let report := execute libraries settings i files
    report.outcome = .crash (.unencodable fault) ∧ report.stdout = []
      ∧ report.files = files.holding path [] := by
  obtain ⟨hput, hemptied⟩ := putOut_of_spoiltBy hspoilt
  obtain ⟨houtcome, hstdout, hafter⟩ := execute_of_putOut_error h hput
  exact ⟨houtcome, hstdout, hafter.trans hemptied⟩

/-- Every other run fails and changes nothing. -/
theorem execute_of_neither
    (htakes : ∀ t, i.Renders libraries settings files t →
      ¬files.Takes i.output t)
    (hspoilt : ∀ t, i.Renders libraries settings files t →
      ∀ path fault, ¬files.SpoiltBy i.output t path fault) :
    let report := execute libraries settings i files
    report.outcome ≠ .exit 0 ∧ report.stdout = []
      ∧ report.files = files := by
  by_cases hrenders : ∃ t, i.Renders libraries settings files t
  · obtain ⟨t, ht⟩ := hrenders
    obtain ⟨⟨complaint, hput⟩, hunchanged⟩ :=
      putOut_of_not_takes (htakes t ht) (hspoilt t ht)
    obtain ⟨houtcome, hstdout, hafter⟩ := execute_of_putOut_error ht hput
    refine ⟨?_, hstdout, hafter.trans hunchanged⟩
    rw [houtcome]
    exact complaint.outcome_ne
  · exact execute_of_not_renders (not_exists.mp hrenders)

/-- A run that fails puts nothing out, and no file changes but one that is
spoilt. -/
theorem execute_of_failed
    (h : (execute libraries settings i files).outcome ≠ .exit 0) :
    let report := execute libraries settings i files
    report.stdout = []
      ∧ (report.files = files ∨ ∃ t path fault,
        i.Renders libraries settings files t
          ∧ files.SpoiltBy i.output t path fault) := by
  have htakes : ∀ t, i.Renders libraries settings files t →
      ¬files.Takes i.output t := fun t ht htakes =>
    h (execute_of_takes ht htakes).1
  by_cases hspoilt : ∃ t path fault, i.Renders libraries settings files t
      ∧ files.SpoiltBy i.output t path fault
  · obtain ⟨t, path, fault, ht, hfault⟩ := hspoilt
    obtain ⟨-, hstdout, -⟩ := execute_of_spoiltBy ht hfault
    exact ⟨hstdout, .inr ⟨t, path, fault, ht, hfault⟩⟩
  · obtain ⟨-, hstdout, hfiles⟩ := execute_of_neither htakes
      fun t ht path fault hfault => hspoilt ⟨t, path, fault, ht, hfault⟩
    exact ⟨hstdout, .inl hfiles⟩

/-- A run succeeds exactly when there is a text that fits its output. -/
theorem execute_succeeds_iff :
    (execute libraries settings i files).outcome = .exit 0
      ↔ ∃ t, i.Renders libraries settings files t
        ∧ files.Takes i.output t := by
  constructor
  · intro hsucceeded
    by_contra hnone
    have htakes : ∀ t, i.Renders libraries settings files t →
        ¬files.Takes i.output t := fun t ht htakes => hnone ⟨t, ht, htakes⟩
    have hspoilt : ∀ t, i.Renders libraries settings files t →
        ∀ path fault, ¬files.SpoiltBy i.output t path fault := by
      intro t ht path fault hfault
      cases hsucceeded.symm.trans (execute_of_spoiltBy ht hfault).1
    exact (execute_of_neither htakes hspoilt).1 hsucceeded
  · rintro ⟨t, ht, htakes⟩
    exact (execute_of_takes ht htakes).1

/-- A command line that asks for an invocation, and a text the invocation
renders. -/
structure Yields (libraries : Libraries) (settings : Settings)
    (arguments : List Text) (files : Files) (i : Invocation) (t : Text) :
    Prop where
  asks : Request.ofTexts arguments = .ok (.run i)
  renders : i.Renders libraries settings files t

/-- The program puts out all of its text or nothing, but for an output file
that a text without octets spoils. Take a command line that asks for no
information.

It succeeds exactly when there is a text, the text has octets, and the
output file opens if there is one. Then the text is on the standard
output, or its octets are in the output file, and nothing else has
changed.

If it fails, the standard output is empty. The files are as they were,
unless the output file was opened for a text without octets: then it is
empty, and this happens whenever there is such a text and such a file. -/
theorem run_allOrNothing (libraries : Libraries) (settings : Settings)
    {arguments : List Text} (files : Files)
    (hasks : AsksNoInformation arguments) :
    let report := run libraries settings arguments files
    let yields := Yields libraries settings arguments files
    (report.outcome = .exit 0
        ↔ ∃ i t, yields i t ∧ files.Takes i.output t)
      ∧ (report.outcome = .exit 0 → ∃ i t, yields i t
        ∧ Delivered files t i.output report.stdout report.files)
      ∧ (report.outcome ≠ .exit 0 → report.stdout = []
        ∧ (report.files = files ∨ ∃ i t path fault, yields i t
          ∧ files.SpoiltBy i.output t path fault))
      ∧ ∀ i t path fault, yields i t →
        files.SpoiltBy i.output t path fault →
        report.outcome = .crash (.unencodable fault)
          ∧ report.files = files.holding path [] := by
  simp only [run]
  cases hrequest : Request.ofTexts arguments with
  | error fault =>
      refine ⟨iff_of_false nofun ?_, nofun, fun _ => ⟨rfl, .inl rfl⟩, ?_⟩
      · rintro ⟨i, t, hyields, -⟩
        cases hrequest.symm.trans hyields.asks
      · intro i t path fault hyields
        cases hrequest.symm.trans hyields.asks
  | ok request =>
      obtain ⟨i, rfl⟩ := hasks.exists_run hrequest
      have hyields {j : Invocation} {t : Text} :
          Yields libraries settings arguments files j t
            ↔ i = j ∧ i.Renders libraries settings files t := by
        constructor
        · rintro ⟨hasked, hrenders⟩
          cases hrequest.symm.trans hasked
          exact ⟨rfl, hrenders⟩
        · rintro ⟨rfl, hrenders⟩
          exact ⟨hrequest, hrenders⟩
      simp only [hyields]
      refine ⟨?_, ?_, ?_, ?_⟩
      · rw [execute_succeeds_iff]
        constructor
        · rintro ⟨t, ht, htakes⟩
          exact ⟨i, t, ⟨rfl, ht⟩, htakes⟩
        · rintro ⟨_, t, ⟨rfl, ht⟩, htakes⟩
          exact ⟨t, ht, htakes⟩
      · intro hsucceeded
        obtain ⟨t, ht, htakes⟩ := execute_succeeds_iff.mp hsucceeded
        exact ⟨i, t, ⟨rfl, ht⟩, (execute_of_takes ht htakes).2⟩
      · intro hfailed
        obtain ⟨hstdout, hfiles | ⟨t, path, fault, ht, hspoilt⟩⟩ :=
          execute_of_failed hfailed
        · exact ⟨hstdout, .inl hfiles⟩
        · exact ⟨hstdout, .inr ⟨i, t, path, fault, ⟨rfl, ht⟩, hspoilt⟩⟩
      · rintro _ t path fault ⟨rfl, ht⟩ hspoilt
        obtain ⟨houtcome, -, hfiles⟩ := execute_of_spoiltBy ht hspoilt
        exact ⟨houtcome, hfiles⟩

/-- The octets of a word. -/
def wordOctets (s : String) : Octets := (word s).flatMap Character.octets

/-- A template for two values, a file with one, and a file to write to. -/
def pairFiles : Files where
  entries := [(.ofText (word "pair.clf"), wordOctets "~A, ~A~%"),
    (.ofText (word "first.yaml"), wordOctets "ook"),
    (.ofText (word "pair.txt"), wordOctets "nork")]

/-- All three files as they are named on a command line. -/
def pairSwitches : List Text :=
  [word "--templateFile=pair.clf", word "--argsFile", word "first.yaml",
    word "--out=pair.txt"]

/-- A half in quotes, by its escape. -/
def quotedHalf : Text := word "\"\\ud800\""

/-- Libraries that load plain words and a half in quotes. -/
def pairLibraries : Libraries where
  load document :=
    .ok (.str (if document = quotedHalf then [.half 0] else document))
  listing template := template

/-- With a word for the other value there is a text that fits. Without one
there is the first value before the template fails, and none of it is put
out. With a half there is a text that spoils the file. -/
theorem run_allOrNothing_pair :
    let runWith (more : List Text) := run pairLibraries .standard
      (pairSwitches ++ more) pairFiles
    let whole := runWith [word "onk"]
    let failed := runWith []
    let spoilt := runWith [quotedHalf]
    (whole.outcome = .exit 0 ∧ whole.stdout = []
        ∧ whole.files.contents? (.ofText (word "pair.txt"))
          = some (wordOctets "ook, onk\n")
        ∧ ∃ (i : Invocation) (t : Text),
          Delivered pairFiles t i.output whole.stdout whole.files)
      ∧ (failed.outcome = .exit 1 ∧ failed.stdout = []
        ∧ failed.files.entries = pairFiles.entries)
      ∧ spoilt.outcome = .crash (.unencodable ⟨.half 0, 5, 1⟩)
        ∧ spoilt.stdout = []
        ∧ spoilt.files.contents? (.ofText (word "pair.txt")) = some []
        ∧ ∃ (i : Invocation) (t : Text) (path : Path)
          (fault : Utf8.EncodeFault),
          pairFiles.SpoiltBy i.output t path fault := by
  have hwhole : AsksNoInformation (pairSwitches ++ [word "onk"]) :=
    asksNoInformation_of_ofTexts rfl (by simp [Word.Spells])
  have hfailed : AsksNoInformation (pairSwitches ++ []) :=
    asksNoInformation_of_ofTexts rfl (by simp [Word.Spells])
  have hspoilt : AsksNoInformation (pairSwitches ++ [quotedHalf]) :=
    asksNoInformation_of_ofTexts rfl (by simp [Word.Spells])
  have hsucceeded : (run pairLibraries .standard
      (pairSwitches ++ [word "onk"]) pairFiles).outcome = .exit 0 := by
    decide +kernel
  have hexit : (run pairLibraries .standard (pairSwitches ++ [])
      pairFiles).outcome = .exit 1 := by
    decide +kernel
  have hcrash : (run pairLibraries .standard (pairSwitches ++ [quotedHalf])
      pairFiles).outcome = .crash (.unencodable ⟨.half 0, 5, 1⟩) := by
    decide +kernel
  obtain ⟨-, hdelivers, -, -⟩ :=
    run_allOrNothing pairLibraries .standard pairFiles hwhole
  obtain ⟨-, -, hfails, -⟩ :=
    run_allOrNothing pairLibraries .standard pairFiles hfailed
  obtain ⟨-, -, hspoils, -⟩ :=
    run_allOrNothing pairLibraries .standard pairFiles hspoilt
  obtain ⟨i, t, -, hdelivered⟩ := hdelivers hsucceeded
  obtain ⟨hnothing, -⟩ := hfails (by rw [hexit]; decide)
  obtain ⟨hstdout, hchanged⟩ := hspoils (by rw [hcrash]; decide)
  have hemptied : (run pairLibraries .standard
      (pairSwitches ++ [quotedHalf]) pairFiles).files.contents?
        (.ofText (word "pair.txt")) = some [] := by
    decide +kernel
  refine ⟨⟨hsucceeded, ?_, ?_, i, t, hdelivered⟩,
    ⟨hexit, hnothing, ?_⟩, hcrash, hstdout, hemptied, ?_⟩
  · decide +kernel
  · decide +kernel
  · decide +kernel
  · obtain hsame | ⟨i, t, path, fault, -, hspoilt⟩ := hchanged
    · rw [hsame] at hemptied
      cases hemptied.symm.trans (by decide +kernel :
        pairFiles.contents? (.ofText (word "pair.txt"))
          = some (wordOctets "nork"))
    · exact ⟨i, t, path, fault, hspoilt⟩

end TildeFormat.CommandLine
