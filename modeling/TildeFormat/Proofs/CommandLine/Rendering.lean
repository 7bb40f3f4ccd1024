/-
What an invocation renders, told without stages: the template it names
with the values it names, laid out by what the template reads as. A run
gets through its stages to the rendered text exactly when there is one,
and then with this text. What the loader makes of a document is taken as
it is.

Each stage has one lemma that says when it hands a result on, and which.
What a stage tells on the side does not matter for this.
-/
import TildeFormat.CommandLine
import TildeFormat.Proofs.Formatter

namespace TildeFormat.CommandLine

variable {libraries : Libraries} {settings : Settings}
  {formatter : Formatter} {i : Invocation} {files : Files}
  {template t : Text} {arguments : List Text} {values : List Value}

-- ============================================================== stages

namespace Stage

variable {α β : Type}

/-- Two stages in a row hand on what the second one does, given what the
first one does. -/
theorem bind_eq_ok_iff {stage : Stage α} {next : α → Stage β} {b : β} :
    (stage >>= next).result = .ok b
      ↔ ∃ a, stage.result = .ok a ∧ (next a).result = .ok b := by
  show (stage.andThen next).result = .ok b ↔ _
  rw [andThen]
  cases stage.result with
  | ok a => simp
  | error complaint => simp

@[simp]
theorem result_tell_bind (notices : List Notice) (next : Unit → Stage β) :
    (tell notices >>= next).result = (next ()).result := rfl

@[simp]
theorem result_log_bind (level : Nat) (message : Text)
    (next : Unit → Stage β) :
    (log level message >>= next).result = (next ()).result := rfl

@[simp]
theorem result_done (a : α) : (done a).result = .ok a := rfl

@[simp]
theorem result_stop (complaint : Complaint) :
    (stop complaint : Stage α).result = .error complaint := rfl

end Stage

-- ================================================= what there is to lay out

/-- The template that an invocation names, and the arguments of the
command line that go with it. -/
inductive Invocation.Names (i : Invocation) (files : Files) :
    Text → List Text → Prop where
  /-- The first operand is the template. -/
  | operand {template : Text} (hfile : i.templateFile = none)
      (htemplate : i.template = some template) :
      i.Names files template i.arguments
  /-- The template is in a file, so all operands are arguments. -/
  | file {path : Path} {template : Text}
      (hfile : i.templateFile = some path)
      (hread : files.read path = .ok template) :
      i.Names files template (i.template.toList ++ i.arguments)

/-- The values of the arguments file: none without a file. -/
inductive Files.Hold (libraries : Libraries) (files : Files) :
    Option Path → List Value → Prop where
  | none : files.Hold libraries none []
  | file {path : Path} {document : Text} {v : Value}
      (hread : files.read path = .ok document)
      (hload : libraries.load document = .ok v) :
      files.Hold libraries (some path) (fileValues v)

/-- An invocation renders a text: its template can be read, and gives the
text with the values of the arguments file and of the command line. -/
def Invocation.Renders (libraries : Libraries) (settings : Settings)
    (i : Invocation) (files : Files) (t : Text) : Prop :=
  ∃ template arguments inFile given tree,
    i.Names files template arguments
      ∧ files.Hold libraries i.argsFile inFile
      ∧ arguments.mapM (decodeArgument libraries) = .ok given
      ∧ parse (.builtin settings) template = .ok tree
      ∧ (render (.builtin settings) tree (inFile ++ given)).result = .ok t

/-- What can be read is there. -/
theorem Files.has_of_read {path : Path} (h : files.read path = .ok t) :
    files.has path = true := by
  unfold read at h
  split at h
  · cases h
  · next octets hcontents =>
    rw [has, hcontents, Option.isSome_some, Bool.true_or]

-- ====================================================== what stages hand on

/-- A template is found exactly when the invocation names one that can be
read. -/
theorem findTemplate_eq_ok_iff :
    (findTemplate i files).result = .ok (template, arguments)
      ↔ i.Names files template arguments := by
  constructor
  · intro h
    cases hfile : i.templateFile with
    | none =>
        cases htemplate : i.template with
        | none => simp [findTemplate, hfile, htemplate] at h
        | some operand =>
            simp only [findTemplate, hfile, htemplate] at h
            cases h
            exact .operand hfile htemplate
    | some path =>
        simp only [findTemplate, hfile] at h
        split at h
        · cases h
        · split at h
          · cases h
          · cases h
          · next template hread =>
            cases h
            exact .file hfile hread
  · intro h
    cases h with
    | operand hfile htemplate => simp [findTemplate, hfile, htemplate]
    | file hfile hread =>
        simp [findTemplate, hfile, hread, Files.has_of_read hread]

/-- A task is its invocation's, and the arguments file is there. -/
theorem findTask_eq_ok_iff {task : Task} :
    (findTask i files).result = .ok task
      ↔ i.Names files task.template task.arguments
        ∧ task.argsFile = i.argsFile
        ∧ ∀ path, i.argsFile = some path → files.has path = true := by
  obtain ⟨template, arguments, argsFile⟩ := task
  rw [findTask, Stage.result_log_bind, Stage.bind_eq_ok_iff, Prod.exists]
  simp only [findTemplate_eq_ok_iff]
  cases i.argsFile with
  | none =>
      constructor
      · rintro ⟨_, _, hnames, ⟨⟩⟩
        exact ⟨hnames, rfl, nofun⟩
      · rintro ⟨hnames, rfl, -⟩
        exact ⟨_, _, hnames, rfl⟩
  | some path =>
      constructor
      · rintro ⟨_, _, hnames, htask⟩
        simp only at htask
        split at htask
        · next hhas =>
          cases htask
          exact ⟨hnames, rfl, fun _ hpath => Option.some.inj hpath ▸ hhas⟩
        · cases htask
      · rintro ⟨hnames, rfl, hhas⟩
        refine ⟨_, _, hnames, ?_⟩
        simp only [hhas path rfl, if_true]
        rfl

/-- A compiled template is what its text reads as. -/
theorem compileTemplate_eq_ok {compiled : Compiled}
    (hsound : formatter.Sound (.builtin settings))
    (h : (compileTemplate libraries formatter i template).result
      = .ok compiled) :
    parse (.builtin settings) template = .ok compiled.tree := by
  simp only [compileTemplate, Stage.result_tell_bind,
    Stage.result_log_bind] at h
  cases hparse : parse (.builtin settings) template with
  | error e =>
      rw [hsound.compile_of_error hparse] at h
      cases h
  | ok tree =>
      obtain ⟨found, hfound, rfl⟩ := hsound.compile_of_ok hparse
      rw [hfound] at h
      cases h
      rfl

/-- What a template reads as is compiled. -/
theorem exists_compileTemplate_eq_ok {tree : List Node}
    (hsound : formatter.Sound (.builtin settings))
    (h : parse (.builtin settings) template = .ok tree) :
    ∃ compiled,
      (compileTemplate libraries formatter i template).result = .ok compiled
        ∧ compiled.tree = tree := by
  obtain ⟨found, hfound, htree⟩ := hsound.compile_of_ok h
  refine ⟨found, ?_, htree⟩
  simp [compileTemplate, hfound]

/-- Values are loaded exactly when the arguments file holds them. -/
theorem loadFile_eq_ok_iff {argsFile : Option Path} :
    (loadFile libraries files argsFile).result = .ok values
      ↔ files.Hold libraries argsFile values := by
  constructor
  · intro h
    cases argsFile with
    | none =>
        cases h
        exact .none
    | some path =>
        simp only [loadFile] at h
        split at h
        · cases h
        · cases h
        · next document hread =>
          split at h
          · cases h
          · next v hload =>
            cases h
            exact .file hread hload
  · intro h
    cases h with
    | none => rfl
    | file hread hload => simp [loadFile, hread, hload]

/-- Arguments are decoded one by one, and each must be. -/
theorem decodeAll_eq_ok_iff :
    (decodeAll libraries arguments).result = .ok values
      ↔ arguments.mapM (decodeArgument libraries) = .ok values := by
  rw [decodeAll]
  cases arguments.mapM (decodeArgument libraries) <;> simp

/-- The values of a task are those of the file and then those of the
command line. -/
theorem loadValues_eq_ok_iff {task : Task} :
    (loadValues libraries files task).result = .ok values
      ↔ ∃ inFile given, files.Hold libraries task.argsFile inFile
        ∧ task.arguments.mapM (decodeArgument libraries) = .ok given
        ∧ inFile ++ given = values := by
  simp [loadValues, Stage.bind_eq_ok_iff, loadFile_eq_ok_iff,
    decodeAll_eq_ok_iff]

/-- The stage renders what the template renders to. -/
theorem renderValues_eq_ok_iff {compiled : Compiled} :
    (renderValues formatter compiled values).result = .ok t
      ↔ (render formatter.registry compiled.tree values).result
        = .ok t := by
  simp only [renderValues, Stage.result_tell_bind, Stage.result_log_bind]
  cases (render formatter.registry compiled.tree values).result <;> simp

/-- The stages up to the output hand a text on exactly when the invocation
renders it. -/
theorem renderTask_eq_ok_iff
    (hsound : formatter.Sound (.builtin settings)) :
    (renderTask libraries formatter i files).result = .ok t
      ↔ i.Renders libraries settings files t := by
  simp only [renderTask, Stage.bind_eq_ok_iff, findTask_eq_ok_iff,
    loadValues_eq_ok_iff, renderValues_eq_ok_iff, hsound.registry]
  constructor
  · rintro ⟨task, ⟨hnames, hfile, -⟩, compiled, hcompiled, values,
      ⟨inFile, given, hhold, hgiven, rfl⟩, hresult⟩
    rw [hfile] at hhold
    exact ⟨_, _, inFile, given, _, hnames, hhold, hgiven,
      compileTemplate_eq_ok hsound hcompiled, hresult⟩
  · rintro ⟨template, arguments, inFile, given, tree, hnames, hhold,
      hgiven, hparse, hresult⟩
    obtain ⟨compiled, hcompiled, rfl⟩ :=
      exists_compileTemplate_eq_ok (i := i) hsound hparse
    have hhas : ∀ path, i.argsFile = some path →
        files.has path = true := by
      intro path hpath
      rw [hpath] at hhold
      cases hhold with
      | file hread _ => exact Files.has_of_read hread
    exact ⟨⟨template, arguments, i.argsFile⟩, ⟨hnames, rfl, hhas⟩,
      compiled, hcompiled, _, ⟨inFile, given, hhold, hgiven, rfl⟩,
      hresult⟩

end TildeFormat.CommandLine
