import Mathlib
import SchemaCheck.CommandLine.Run
import SchemaCheck.Proofs.CommandLine.Documents
import SchemaCheck.Proofs.Json.OneLine
import SchemaCheck.Proofs.Report
import SchemaCheck.Proofs.Spec.Description

/-!
# The validating command

What a whole run of the validating command prints, and how it ends, over all file systems and
standard inputs.

* `Input.Passes`: a text is valid JSON without violations.  `Report.valid_of`: a report says so
  whatever it shows.
* `inputAt`: what a path gives behind other paths.  `readInputs_cons_eq_ok_iff` is one step of
  reading, from which follows `readInputs_eq_ok_iff` by induction on the paths.
* `ValidateOptions.Loads` and `ValidateOptions.Lacks`: all that a validation needs can be loaded, or
  something of it cannot.  Exactly one of the two is the case (`not_lacks_of_loads`,
  `exists_loads_of_not_lacks`).
* `ValidateOptions.CutsInto` and `ValidateOptions.Prints`: the documents of the inputs, and what is
  printed of each of them, said without the functions that cut and print.
* `ValidateOptions.run_eq`: everything is loaded first, and then the documents are told of, which
  gives the output `ValidateOptions.summary`.
* `Invocation.run_validate`: what is printed, and when the exit code is zero.
-/

namespace SchemaCheck

/-! ### Documents that pass -/

namespace Input

/-- The text is valid JSON without violations of the schema. -/
def Passes (input : Input) (schema : Schema) : Prop :=
  ∃ document, Json.readText input.text = .ok document ∧ schema.validate document = []

instance (input : Input) (schema : Schema) : Decidable (input.Passes schema) :=
  match h : Json.readText input.text with
  | .ok document => decidable_of_iff (schema.validate document = []) (by simp [Passes, h])
  | .error _ => isFalse (by simp [Passes, h])

end Input

/-- A report says that a document passed exactly if it did, however little is shown. -/
lemma Report.valid_of (schema : Schema) (limit : Nat) (input : Input) :
    (Report.of schema limit input).valid = true ↔ input.Passes schema := by
  rw [Report.of, Input.Passes]
  cases Json.readText input.text with
  | error message => simp [valid]
  | ok document => simp [valid]

/-- The reports that are not valid are those of the documents that do not pass. -/
lemma Report.length_filter_not_valid (schema : Schema) (limit : Nat) (documents : List Input) :
    ((documents.map (Report.of schema limit)).filter fun report => !report.valid).length =
      (documents.filter fun document => ¬document.Passes schema).length := by
  rw [List.filter_map, List.length_map]
  refine congrArg (fun p => (documents.filter p).length) (funext fun document => ?_)
  simp [← Report.valid_of schema limit]

namespace CommandLine

/-! ### Printed lines -/

namespace Output

variable {lines : List String} {failed total : Nat} {what : String}

lemma stdout_tally : (tally lines failed total what).stdout = linesText lines := by
  rw [tally]
  split <;> rfl

lemma code_tally : (tally lines failed total what).code = if failed = 0 then 0 else 1 := by
  rw [tally]
  split <;> rfl

lemma stderr_tally : (tally lines failed total what).stderr =
    if failed = 0 then "" else
      "error: " ++ (failed.repr ++ " of " ++ total.repr ++ " " ++ what) ++ "\n" := by
  rw [tally]
  split <;> rfl

end Output

/-! ### Inputs -/

/-- The input at a path, behind others.  A dash is the standard input, of which there is nothing
left where it was read before. -/
def inputAt (files : Files) (stdin : Json.Bytes) (before : List String) (path : String) :
    Except FileError Input :=
  if path = "-" then (textOfBytes (if "-" ∈ before then [] else stdin)).map (Input.mk "<stdin>")
  else (files.readText path).map (Input.mk path)

section Inputs

variable {files : Files} {stdin : Json.Bytes} {path : String} {paths : List String}
  {inputs : List Input}

/-- A path before others takes the standard input from them, if it is a dash. -/
lemma inputAt_cons (first : String) (before : List String) :
    inputAt files stdin (first :: before) =
      inputAt files (if first = "-" then [] else stdin) before := by
  funext path
  rw [inputAt, inputAt]
  by_cases hfirst : first = "-"
  · simp [hfirst]
  · simp [hfirst, Ne.symm hfirst]

/-- **One step of reading**: the first path is read, and the others with what it leaves. -/
lemma readInputs_cons_eq_ok_iff :
    readInputs files stdin (path :: paths) = .ok inputs ↔
      ∃ input rest, inputAt files stdin [] path = .ok input ∧
        readInputs files (if path = "-" then [] else stdin) paths = .ok rest ∧
          inputs = input :: rest := by
  rw [inputAt]
  by_cases hpath : path = "-"
  · subst hpath
    rw [readInputs, if_pos rfl, if_pos rfl, if_neg List.not_mem_nil]
    cases textOfBytes stdin with
    | error error => simp [Except.map]
    | ok text => cases readInputs files [] paths <;> simp [Except.map, eq_comm]
  · rw [readInputs, if_neg hpath, if_neg hpath]
    · cases files.readText path with
      | error error => simp [Except.map]
      | ok text => cases readInputs files stdin paths <;> simp [Except.map, eq_comm]
    · exact hpath

/-- **Reading all paths** is reading each of them behind those before it. -/
theorem readInputs_eq_ok_iff :
    readInputs files stdin paths = .ok inputs ↔
      ∀ i : Nat, inputs[i]?.map Except.ok =
        paths[i]?.map (inputAt files stdin (paths.take i)) := by
  -- Behind the first path the standard input is what that has left of it.
  induction paths generalizing stdin inputs with
  | nil =>
      rw [readInputs, Except.ok.injEq]
      constructor
      · rintro rfl i
        rfl
      · intro h
        have hfirst := h 0
        cases inputs with
        | nil => rfl
        | cons input rest => cases hfirst
  | cons path paths ih =>
      rw [readInputs_cons_eq_ok_iff, ← Nat.and_forall_add_one]
      constructor
      · rintro ⟨input, rest, hinput, hrest, rfl⟩
        refine ⟨congrArg some hinput.symm, fun i => ?_⟩
        rw [List.take_succ_cons, inputAt_cons]
        exact ih.1 hrest i
      · rintro ⟨hfirst, hrest⟩
        cases inputs with
        | nil => cases hfirst
        | cons input rest =>
            refine ⟨input, rest, (Option.some.inj hfirst).symm, ih.2 fun i => ?_, rfl⟩
            rw [← inputAt_cons, ← List.take_succ_cons]
            exact hrest i

/-- All paths can be read exactly if there is none that cannot. -/
lemma exists_readInputs_iff :
    (∃ inputs, readInputs files stdin paths = .ok inputs) ↔
      ∀ (i : Nat) path, paths[i]? = some path →
        ∃ input, inputAt files stdin (paths.take i) path = .ok input := by
  constructor
  · rintro ⟨inputs, h⟩ i path hpath
    have hinput := readInputs_eq_ok_iff.1 h i
    rw [hpath, Option.map_some] at hinput
    obtain ⟨input, -, hread⟩ := Option.map_eq_some_iff.1 hinput
    exact ⟨input, hread.symm⟩
  · intro h
    induction paths generalizing stdin with
    | nil => exact ⟨[], rfl⟩
    | cons path paths ih =>
        obtain ⟨input, hinput⟩ := h 0 path rfl
        have hbehind : ∀ (i : Nat) path', paths[i]? = some path' → ∃ input,
            inputAt files (if path = "-" then [] else stdin) (paths.take i) path' = .ok input := by
          intro i path' hpath
          rw [← inputAt_cons, ← List.take_succ_cons]
          exact h (i + 1) path' hpath
        obtain ⟨rest, hrest⟩ := ih hbehind
        exact ⟨_, readInputs_cons_eq_ok_iff.2 ⟨input, rest, hinput, hrest, rfl⟩⟩

end Inputs

/-! ### What a validation loads -/

/-- The settings of a file, or the defaults where none is named. -/
def Configures (files : Files) : Option String → Settings → Prop
  | none, settings => settings = {}
  | some path, settings => Settings.load files path = .ok settings

lemma Configures.unique {files : Files} {config : Option String} {settings settings' : Settings}
    (h : Configures files config settings) (h' : Configures files config settings') :
    settings' = settings := by
  cases config with
  | none => exact h'.trans h.symm
  | some path => exact Except.ok.inj (h'.symm.trans h)

namespace ValidateOptions

/-- **Where the schema is from**: a file of its own, the directory that is given, or else the
catalog of the settings. -/
inductive Resolves (options : ValidateOptions) (files : Files) (settings : Settings)
    (schema : Schema) : Prop
  | file {path} (file : options.schema = some path)
    (loads : Schema.ofFile files path = .ok schema)
  | directory {path name catalog} (nofile : options.schema = none)
    (named : options.name = some name) (directory : options.directory = some path)
    (loads : Catalog.load files (.directory path) = .ok catalog)
    (entry : catalog.get? name = some schema)
  | configured {name catalog} (nofile : options.schema = none)
    (named : options.name = some name) (nodirectory : options.directory = none)
    (loads : settings.catalog? files = some (.ok catalog))
    (entry : catalog.get? name = some schema)

/-- **All that a validation needs** can be loaded: its settings, its schema and its inputs. -/
structure Loads (options : ValidateOptions) (config : Option String) (files : Files)
    (stdin : Json.Bytes) (settings : Settings) (schema : Schema) (inputs : List Input) : Prop where
  configures : Configures files config settings
  resolves : options.Resolves files settings schema
  reads : ∀ i : Nat, inputs[i]?.map Except.ok =
    options.inputs[i]?.map (inputAt files stdin (options.inputs.take i))

/-- **Something that a validation needs** cannot be loaded: its settings, its schema, or an input,
at whatever place. -/
inductive Lacks (options : ValidateOptions) (config : Option String) (files : Files)
    (stdin : Json.Bytes) : Prop
  | settings (unreadable : ∀ settings, ¬Configures files config settings)
  | schema {settings} (configures : Configures files config settings)
    (unresolved : ∀ schema, ¬options.Resolves files settings schema)
  | input {i : Nat} {path} (place : options.inputs[i]? = some path)
    (unreadable : ∀ input, inputAt files stdin (options.inputs.take i) path ≠ .ok input)

end ValidateOptions

section Loading

variable {config : Option String} {options : ValidateOptions} {files : Files}
  {stdin : Json.Bytes} {settings : Settings} {schema : Schema} {inputs : List Input}

lemma loadSettings_eq_ok_iff {command : Command} :
    (Invocation.mk config command).loadSettings files = .ok settings ↔
      Configures files config settings := by
  cases config with
  | none => rw [Invocation.loadSettings, Configures, Except.ok.injEq, eq_comm]
  | some path => exact mapError_eq_ok_iff

/-- A directory that is given goes before the catalog of the settings. -/
lemma catalogOf_eq_ok_iff {directory : Option String} {catalog : Catalog} :
    catalogOf files settings directory = .ok catalog ↔
      (∃ path, directory = some path ∧ Catalog.load files (.directory path) = .ok catalog) ∨
        directory = none ∧ settings.catalog? files = some (.ok catalog) := by
  cases directory with
  | some path => simp [catalogOf, mapError_eq_ok_iff]
  | none =>
      rw [catalogOf]
      cases settings.catalog? files with
      | none => simp
      | some loaded => simp [mapError_eq_ok_iff]

/-- A schema is loaded exactly from where `ValidateOptions.Resolves` says. -/
lemma loadSchema_eq_ok_iff :
    options.loadSchema files settings = .ok schema ↔ options.Resolves files settings schema := by
  rw [ValidateOptions.loadSchema]
  constructor
  · intro h
    split at h
    · next path _ hfile => exact .file hfile (mapError_eq_ok_iff.1 h)
    · cases h
    · next name hnofile hname =>
        split at h
        · cases h
        · next catalog hcatalog =>
            split at h
            · next found hentry =>
                obtain rfl := Except.ok.inj h
                rcases catalogOf_eq_ok_iff.1 hcatalog with ⟨path, hpath, hload⟩ | ⟨hnone, hload⟩
                · exact .directory hnofile hname hpath hload hentry
                · exact .configured hnofile hname hnone hload hentry
            · cases h
  · intro h
    cases h with
    | file hfile hload =>
        rw [hfile]
        exact mapError_eq_ok_iff.2 hload
    | directory hnofile hname hpath hload hentry =>
        have hcatalog : catalogOf files settings options.directory = .ok _ :=
          catalogOf_eq_ok_iff.2 (.inl ⟨_, hpath, hload⟩)
        simp only [hnofile, hname, hcatalog, hentry]
    | configured hnofile hname hnone hload hentry =>
        have hcatalog := catalogOf_eq_ok_iff.2 (.inr ⟨hnone, hload⟩)
        simp only [hnofile, hname, hcatalog, hentry]

/-- Where everything can be loaded, nothing is lacking. -/
lemma not_lacks_of_loads (h : options.Loads config files stdin settings schema inputs) :
    ¬options.Lacks config files stdin := by
  intro hlacks
  cases hlacks with
  | settings unreadable => exact unreadable settings h.configures
  | schema configures unresolved =>
      obtain rfl := h.configures.unique configures
      exact unresolved schema h.resolves
  | input place unreadable =>
      obtain ⟨input, hinput⟩ :=
        exists_readInputs_iff.1 ⟨inputs, readInputs_eq_ok_iff.2 h.reads⟩ _ _ place
      exact unreadable input hinput

/-- All that a validation needs can be loaded, unless something of it cannot. -/
lemma exists_loads_of_not_lacks (h : ¬options.Lacks config files stdin) :
    ∃ settings schema inputs, options.Loads config files stdin settings schema inputs := by
  have hsettings : ∃ settings, Configures files config settings := by
    by_contra hnone
    exact h (.settings (not_exists.1 hnone))
  obtain ⟨settings, hsettings⟩ := hsettings
  have hschema : ∃ schema, options.Resolves files settings schema := by
    by_contra hnone
    exact h (.schema hsettings (not_exists.1 hnone))
  obtain ⟨schema, hschema⟩ := hschema
  have hinputs : ∃ inputs, readInputs files stdin options.inputs = .ok inputs := by
    refine exists_readInputs_iff.2 fun i path hpath => ?_
    by_contra hnone
    exact h (.input hpath (not_exists.1 hnone))
  obtain ⟨inputs, hinputs⟩ := hinputs
  exact ⟨settings, schema, inputs, hsettings, hschema, readInputs_eq_ok_iff.1 hinputs⟩

end Loading

/-! ### Runs -/

namespace ValidateOptions

/-- The documents of the inputs. -/
def documents (options : ValidateOptions) (inputs : List Input) : List Input :=
  inputs.flatMap (Input.documents options.byLine)

lemma loadInputs_eq (options : ValidateOptions) (files : Files) (stdin : Json.Bytes) :
    options.loadInputs files stdin =
      (readInputs files stdin options.inputs).map options.documents := by
  refine congrArg (Except.map · _) (funext fun inputs => ?_)
  rw [documents]
  cases options.byLine with
  | true => rfl
  | false => exact (List.flatMap_singleton' inputs).symm

/-- **The documents of all inputs**, in the order of the inputs and of their lines. -/
def CutsInto (options : ValidateOptions) (inputs documents : List Input) : Prop :=
  ∃ parts, List.Forall₂ (fun input part => input.CutInto options.byLine part) inputs parts ∧
    documents = parts.flatten

lemma cutsInto_documents (options : ValidateOptions) (inputs : List Input) :
    options.CutsInto inputs (options.documents inputs) := by
  refine ⟨inputs.map (Input.documents options.byLine), ?_, List.flatMap_def⟩
  rw [List.forall₂_map_right_iff, List.forall₂_same]
  exact fun input _ => input.cutInto_documents options.byLine

/-- Inputs that are not taken line by line are documents as they are. -/
lemma CutsInto.eq_inputs {options : ValidateOptions} {inputs documents : List Input}
    (h : options.CutsInto inputs documents) (hwhole : options.byLine = false) :
    documents = inputs := by
  obtain ⟨parts, hparts, rfl⟩ := h
  rw [hwhole] at hparts
  induction hparts with
  | nil => rfl
  | cons hfirst _ ih =>
      cases hfirst
      rw [List.flatten_cons, ih]
      rfl

/-- **What is printed of all documents**: of each of them what is to be printed of it, in the format
and up to the limit that the options name, or else the settings. -/
def Prints (options : ValidateOptions) (settings : Settings) (schema : Schema)
    (documents : List Input) (reports : List (List String)) : Prop :=
  List.Forall₂ (fun document lines => document.PrintedAs schema
    (options.maxViolations.getD settings.maxViolations) (options.format.getD settings.format) lines)
    documents reports

/-- The lines that are printed of a document. -/
def linesOf (options : ValidateOptions) (settings : Settings) (schema : Schema)
    (document : Input) : List String :=
  (Report.of schema (options.maxViolations.getD settings.maxViolations) document).linesAs
    (options.format.getD settings.format)

lemma prints_linesOf (options : ValidateOptions) (settings : Settings) (schema : Schema)
    (documents : List Input) :
    options.Prints settings schema documents
      (documents.map (options.linesOf settings schema)) := by
  rw [Prints, List.forall₂_map_right_iff, List.forall₂_same]
  exact fun document _ => Report.printedAs_linesAs ..

/-- Only one thing is to be printed of all documents. -/
lemma Prints.unique {options : ValidateOptions} {settings : Settings}
    {schema : Schema} {documents : List Input} {reports reports' : List (List String)}
    (h : options.Prints settings schema documents reports)
    (h' : options.Prints settings schema documents reports') : reports = reports' :=
  have hunique : Relator.RightUnique fun (document : Input) lines => document.PrintedAs schema
      (options.maxViolations.getD settings.maxViolations) (options.format.getD settings.format)
      lines := fun _ _ _ => Input.PrintedAs.unique
  List.right_unique_forall₂' hunique h h'

/-- In JSON form, a line is printed of each document. -/
lemma Prints.exists_line {options : ValidateOptions} {settings : Settings} {schema : Schema}
    {documents : List Input} {reports : List (List String)}
    (h : options.Prints settings schema documents reports)
    (hformat : options.format.getD settings.format = .json) :
    ∀ lines ∈ reports, ∃ line, lines = [line] ∧ Text.Unbroken line := by
  rw [Prints, hformat] at h
  induction h with
  | nil => exact List.forall_mem_nil _
  | cons hfirst _ ih =>
      refine List.forall_mem_cons.2 ⟨?_, ih⟩
      cases hfirst with
      | faultObject unread => exact ⟨_, rfl, Json.unbroken_compact _⟩
      | object read => exact ⟨_, rfl, Json.unbroken_compact _⟩

/-- The output about documents. -/
def summary (options : ValidateOptions) (settings : Settings) (schema : Schema)
    (documents : List Input) : Output :=
  .tally (documents.flatMap (options.linesOf settings schema))
    (documents.filter fun document => ¬document.Passes schema).length documents.length
    "document(s) failed validation"

section Summary

variable {options : ValidateOptions} {settings : Settings} {schema : Schema}
  {documents : List Input}

lemma stdout_summary : (options.summary settings schema documents).stdout =
    Output.linesText (documents.map (options.linesOf settings schema)).flatten := by
  rw [summary, Output.stdout_tally, List.flatMap_def]

lemma code_summary_eq_zero_iff :
    (options.summary settings schema documents).code = 0 ↔
      ∀ document ∈ documents, document.Passes schema := by
  rw [summary, Output.code_tally, ite_eq_left_iff, List.length_eq_zero_iff,
    List.filter_eq_nil_iff]
  simp

/-- Where a document fails, the message tells how many of how many do. -/
lemma summary_of_failed (h : (options.summary settings schema documents).code ≠ 0) :
    (options.summary settings schema documents).code = 1 ∧
      (options.summary settings schema documents).stderr =
        "error: " ++ (documents.filter fun document => ¬document.Passes schema).length.repr ++
          " of " ++ documents.length.repr ++ " document(s) failed validation\n" := by
  rw [summary, Output.code_tally] at h
  have hfailed := fun heq => h (if_pos heq)
  rw [summary, Output.code_tally, Output.stderr_tally, if_neg hfailed, if_neg hfailed]
  refine ⟨rfl, ?_⟩
  simp only [String.append_assoc]
  rfl

end Summary

/-- **A run in two steps.**  Everything is loaded before anything is printed, and then the documents
are told of one by one. -/
lemma run_eq (options : ValidateOptions) (files : Files) (stdin : Json.Bytes)
    (settings : Settings) :
    options.run files stdin settings =
      match options.loadSchema files settings, readInputs files stdin options.inputs with
      | .error message, _ => .failure [] message
      | .ok _, .error message => .failure [] message
      | .ok schema, .ok inputs => options.summary settings schema (options.documents inputs) := by
  rw [run, reports]
  cases options.loadSchema files settings with
  | error message => rfl
  | ok schema =>
      simp only [loadInputs_eq]
      cases readInputs files stdin options.inputs with
      | error message => rfl
      | ok inputs =>
          simp only [Except.map, summary, Report.length_filter_not_valid, List.flatMap_map,
            List.length_map]
          rfl

end ValidateOptions

namespace Invocation

variable {config : Option String} {options : ValidateOptions} {files : Files}
  {stdin : Json.Bytes} {settings : Settings} {schema : Schema} {inputs : List Input}

lemma run_of_loads (h : options.Loads config files stdin settings schema inputs) :
    Invocation.run ⟨config, .validate options⟩ files stdin =
      .done (options.summary settings schema (options.documents inputs)) := by
  rw [Invocation.run, loadSettings_eq_ok_iff.2 h.configures]
  simp only [Command.run, ValidateOptions.run_eq, loadSchema_eq_ok_iff.2 h.resolves,
    readInputs_eq_ok_iff.2 h.reads]

/-- A run that lacks something ends with a message and prints nothing else. -/
lemma exists_failure_of_lacks (h : options.Lacks config files stdin) :
    ∃ message, Invocation.run ⟨config, .validate options⟩ files stdin =
      .done (.failure [] message) := by
  rw [Invocation.run]
  cases hsettings : (Invocation.mk config (.validate options)).loadSettings files with
  | error message => exact ⟨message, rfl⟩
  | ok settings =>
      simp only [Command.run, ValidateOptions.run_eq]
      cases hschema : options.loadSchema files settings with
      | error message => exact ⟨message, rfl⟩
      | ok schema =>
          cases hinputs : readInputs files stdin options.inputs with
          | error message => exact ⟨message, rfl⟩
          | ok inputs =>
              exact absurd h (not_lacks_of_loads ⟨loadSettings_eq_ok_iff.1 hsettings,
                loadSchema_eq_ok_iff.1 hschema, readInputs_eq_ok_iff.1 hinputs⟩)

/-- How reports are shown, and how many threads there are, is of no account to the exit code. -/
lemma run_shown_otherwise {output : Output}
    (h : Invocation.run ⟨config, .validate options⟩ files stdin = .done output)
    (jobs : Option Nat) (format : Option ReportFormat) (maxViolations : Option Nat) :
    ∃ output', Invocation.run ⟨config, .validate { options with jobs, format, maxViolations }⟩ files
      stdin = .done output' ∧ output'.code = output.code ∧ output'.stderr = output.stderr := by
  generalize hother : { options with jobs, format, maxViolations } = other
  have hsettings : (Invocation.mk config (.validate other)).loadSettings files =
      (Invocation.mk config (.validate options)).loadSettings files := rfl
  rw [Invocation.run] at h ⊢
  rw [hsettings]
  generalize (Invocation.mk config (.validate options)).loadSettings files = loaded at h
  cases loaded with
  | error message => exact ⟨output, h, rfl, rfl⟩
  | ok settings =>
      obtain rfl := Ending.done.inj h
      refine ⟨_, rfl, ?_⟩
      subst hother
      have hschema : { options with jobs, format, maxViolations }.loadSchema files settings =
          options.loadSchema files settings := rfl
      rw [ValidateOptions.run_eq, ValidateOptions.run_eq, hschema]
      cases options.loadSchema files settings with
      | error message => exact ⟨rfl, rfl⟩
      | ok schema =>
          cases readInputs files stdin options.inputs with
          | error message => exact ⟨rfl, rfl⟩
          | ok inputs =>
              simp only [ValidateOptions.summary, Output.code_tally, Output.stderr_tally]
              exact ⟨rfl, rfl⟩

/-- **A run of the validating command.**  If its settings, its schema or any of its inputs cannot be
loaded, it prints nothing and fails.  Otherwise it prints exactly one report for each document, in
the order of the inputs and of their lines, which in JSON form is one line; and it succeeds exactly
if all documents pass, and if not, it says how many of how many do not.  How reports are shown
changes neither the exit code nor the message. -/
theorem run_validate (config : Option String) (options : ValidateOptions) (files : Files)
    (stdin : Json.Bytes) :
    ∃ output, Invocation.run ⟨config, .validate options⟩ files stdin = .done output ∧
      (options.Lacks config files stdin → output.code = 1 ∧ output.stdout = "") ∧
      (¬options.Lacks config files stdin → ∃ settings schema inputs documents reports,
        options.Loads config files stdin settings schema inputs ∧
        options.CutsInto inputs documents ∧
        options.Prints settings schema documents reports ∧
        output.stdout = String.join (reports.flatten.map (· ++ "\n")) ∧
        (options.format.getD settings.format = .json →
          ∀ lines ∈ reports, ∃ line, lines = [line] ∧ Text.Unbroken line) ∧
        (output.code = 0 ↔ ∀ document ∈ documents, document.Passes schema) ∧
        (output.code ≠ 0 → output.code = 1 ∧ output.stderr =
          "error: " ++ (documents.filter fun document => ¬document.Passes schema).length.repr ++
            " of " ++ documents.length.repr ++ " document(s) failed validation\n")) ∧
      ∀ jobs format maxViolations, ∃ output',
        Invocation.run ⟨config, .validate { options with jobs, format, maxViolations }⟩ files
          stdin = .done output' ∧ output'.code = output.code ∧ output'.stderr = output.stderr := by
  by_cases hlacks : options.Lacks config files stdin
  · obtain ⟨message, hrun⟩ := exists_failure_of_lacks hlacks
    exact ⟨_, hrun, fun _ => ⟨rfl, rfl⟩, absurd hlacks, run_shown_otherwise hrun⟩
  · obtain ⟨settings, schema, inputs, hloads⟩ := exists_loads_of_not_lacks hlacks
    have hrun := run_of_loads hloads
    have hprints := options.prints_linesOf settings schema (options.documents inputs)
    exact ⟨_, hrun, fun h => absurd h hlacks, fun _ => ⟨settings, schema, inputs, _, _, hloads,
      options.cutsInto_documents inputs, hprints, ValidateOptions.stdout_summary,
      hprints.exists_line, ValidateOptions.code_summary_eq_zero_iff,
      ValidateOptions.summary_of_failed⟩, run_shown_otherwise hrun⟩

/-- Three documents: one that passes, one with more violations than are shown, and one that is not
JSON. -/
theorem run_validate_three :
    let files : Files := ⟨fun path =>
      if path = "s.json" then .ok (Json.bytesOf "\x7b\"strict\":true\x7d")
      else if path = "a.json" then .ok (Json.bytesOf "\x7b\x7d")
      else if path = "b.json" then .ok (Json.bytesOf "x") else .error .notFound,
      fun _ => .error .notDirectory⟩
    let stdin := Json.bytesOf "\x7b\"k\":0,\"l\":0\x7d"
    let options : ValidateOptions :=
      ⟨some "s.json", none, none, ["a.json", "-", "b.json"], false, none, none, some 1⟩
    ¬options.Lacks none files stdin ∧ ∃ output,
      Invocation.run ⟨none, .validate options⟩ files stdin = .done output ∧
        output.stdout = String.join (["a.json: ok", "<stdin>: 2 violation(s)",
          "  k: unknown field", "  ... and 1 more",
          "b.json: invalid JSON: expected value at line 1 column 1"].map (· ++ "\n")) ∧
        output.code = 1 ∧ output.stderr = "error: 2 of 3 document(s) failed validation\n" := by
  intro files stdin options
  have hschema : options.loadSchema files {} = .ok ⟨[], true⟩ := by cbv
  have hinputs : readInputs files (Json.bytesOf "\x7b\"k\":0,\"l\":0\x7d") options.inputs =
      .ok [⟨"a.json", "\x7b\x7d"⟩, ⟨"<stdin>", "\x7b\"k\":0,\"l\":0\x7d"⟩, ⟨"b.json", "x"⟩] := by
    cbv
  have hlacks : ¬options.Lacks none files stdin :=
    not_lacks_of_loads
      ⟨rfl, loadSchema_eq_ok_iff.1 hschema, readInputs_eq_ok_iff.1 hinputs⟩
  let document : Input := ⟨"<stdin>", "\x7b\"k\":0,\"l\":0\x7d"⟩
  have hlines : [⟨"a.json", "\x7b\x7d"⟩, document, ⟨"b.json", "x"⟩].map
      (options.linesOf {} ⟨[], true⟩) = [["a.json: ok"],
        ["<stdin>: 2 violation(s)", "  k: unknown field", "  ... and 1 more"],
        ["b.json: invalid JSON: expected value at line 1 column 1"]] := by decide +kernel
  have hpasses : ([⟨"a.json", "\x7b\x7d"⟩, document, ⟨"b.json", "x"⟩].filter fun document =>
      ¬document.Passes ⟨[], true⟩).length = 2 := by decide +kernel
  have hfaulty : ¬(⟨"b.json", "x"⟩ : Input).Passes ⟨[], true⟩ := by decide +kernel
  obtain ⟨output, hrun, -, hprinted, -⟩ := run_validate none options files stdin
  obtain ⟨settings, schema, inputs, _, reports, hloads, hcuts, hprints, hstdout, -, hcode,
    hfailed⟩ := hprinted hlacks
  obtain rfl : settings = {} := hloads.configures
  obtain rfl := Except.ok.inj ((loadSchema_eq_ok_iff.2 hloads.resolves).symm.trans hschema)
  obtain rfl := Except.ok.inj ((readInputs_eq_ok_iff.2 hloads.reads).symm.trans hinputs)
  obtain rfl := hcuts.eq_inputs rfl
  rw [hprints.unique (options.prints_linesOf {} ⟨[], true⟩ _), hlines] at hstdout
  obtain ⟨hone, hstderr⟩ := hfailed fun hzero => hfaulty (hcode.1 hzero _ (by simp))
  rw [hpasses] at hstderr
  exact ⟨hlacks, output, hrun, hstdout, hone, hstderr⟩

/-- Nothing is printed of an input before one that cannot be read. -/
example :
    let files : Files := ⟨fun path =>
      if path = "s.json" then .ok (Json.bytesOf "\x7b\x7d") else .error .notFound,
      fun _ => .error .notDirectory⟩
    let options : ValidateOptions :=
      ⟨some "s.json", none, none, ["-", "a.json"], false, none, none, none⟩
    Invocation.run ⟨none, .validate options⟩ files (Json.bytesOf "0") =
      .done ⟨1, "",
        "error: Failed to read 'a.json': No such file or directory (os error 2)\n"⟩ := by
  cbv

end Invocation

end CommandLine

end SchemaCheck
