import Mathlib.Tactic.Common
import SchemaCheck.CommandLine.Run
import SchemaCheck.Proofs.Json.OneLine
import SchemaCheck.Proofs.Report
import SchemaCheck.Proofs.Spec.Listing
import SchemaCheck.Proofs.Truth

/-!
# Announced numbers of lines

A list of violations, or of defects, is printed one a line, and its length is announced before it.
The names in it are printed as they are, so that a name with a line feed adds a line that nobody
announced.

* `Violation.names`, `SpecError.names`: the texts that are printed as they are.
* `Violation.unbroken_message_iff`, `SpecError.unbroken_message_iff`: nothing else can break a line.
  What is said of a text that is not JSON cannot (`Schema.worded_of_mem_validate`), nor can what is
  expected of a key of a spec, or a pattern, which is printed between quotes
  (`Schema.worded_of_mem_errors`).
* `lineCount_eq_announced_iff`: what is announced is the number of lines that follow, in the text of
  a failure and on the lines of the commands, exactly if no such name has a line feed.
-/

namespace SchemaCheck

namespace Text

/-- The number of lines of a text that is cut at its line feeds.  No text is no line. -/
def lineCount (text : String) : Nat := if text = "" then 0 else pieceCount text

/-- Texts that are put one a line make as many lines exactly if none of them is broken. -/
lemma lineCount_intercalate_eq_length_iff (texts : List String) (h : ∀ text ∈ texts, text ≠ "") :
    lineCount ("\n".intercalate texts) = texts.length ↔ ∀ text ∈ texts, Unbroken text := by
  rw [← sum_pieceCount_eq_length_iff]
  cases texts with
  | nil => simp [lineCount]
  | cons text texts =>
      have hne : "\n".intercalate (text :: texts) ≠ "" := by
        have hfirst := h text List.mem_cons_self
        cases texts <;> simp_all
      rw [lineCount, if_neg hne, pieceCount_intercalate (List.cons_ne_nil _ _)]

/-- Texts that are printed one a line are read as as many lines exactly if none of them is
broken. -/
lemma length_lines_eq_length_iff (texts : List String) :
    (lines (CommandLine.Output.linesText texts)).length = texts.length ↔
      ∀ text ∈ texts, Unbroken text := by
  have hsum : (lines (CommandLine.Output.linesText texts)).length = (texts.map pieceCount).sum := by
    induction texts with
    | nil => rfl
    | cons text texts ih =>
        have chars : (CommandLine.Output.linesText (text :: texts)).toList =
            text.toList ++ '\n' :: (CommandLine.Output.linesText texts).toList := by
          simp [CommandLine.Output.linesText]
        rw [lines_eq, List.length_map] at ih ⊢
        rw [chars, length_charLines_append_cons, ih, List.map_cons, List.sum_cons, pieceCount]
  rw [hsum, sum_pieceCount_eq_length_iff]

end Text

/-! ### Names that are printed as they are -/

/-- The keys on a path. -/
def Path.keys (path : Path) : List String :=
  path.filterMap fun
    | .key key => some key
    | .index _ => none

/-- The names in the message about a broken rule. -/
def Reason.names : Reason → List String
  | .formatMismatch pattern => [pattern]
  | .notAChoice choices => choices
  | _ => []

/-- **The names in the text of a violation**: the keys on the path to the value, or the name of the
field at the root, and those in the message. -/
def Violation.names (violation : Violation) : List String :=
  (if violation.path = [] then [violation.field] else violation.path.keys) ++ violation.reason.names

/-- The names in the message about a defect.  A pattern is printed between quotes. -/
def Defect.names : Defect → List String
  | .unknownType name => [name]
  | _ => []

/-- **The names in the text of a defect**: the keys on the path to the spec, and those in the
message. -/
def SpecError.names (error : SpecError) : List String := error.path.keys ++ error.defect.names

/-- The text of a path is on one line exactly if its keys are: numbers and brackets have no line
feeds. -/
lemma Path.unbroken_spell_iff (path : Path) :
    Text.Unbroken path.spell ↔ ∀ key ∈ path.keys, Text.Unbroken key := by
  have marks : Text.Unbroken "." ∧ Text.Unbroken "[" ∧ Text.Unbroken "]" := by decide
  have steps (path : Path) : (∀ segment ∈ path, Text.Unbroken segment.spell) ↔
      ∀ key ∈ path.keys, Text.Unbroken key := by
    induction path with
    | nil => simp [keys]
    | cons segment path ih =>
        rw [List.forall_mem_cons, ih]
        cases segment <;> simp [keys, Segment.spell, marks]
  have joined (path : Path) : Text.Unbroken (String.join (path.map Segment.spell)) ↔
      ∀ key ∈ path.keys, Text.Unbroken key := by
    rw [Text.unbroken_join, List.forall_mem_map, steps]
  rcases path with _ | ⟨key | i, path⟩
  · exact joined []
  · rw [spell, Text.unbroken_append, joined]
    simp [keys]
  · exact joined _

/-! ### The texts of violations -/

/-- No limit is spelled with a line feed, whatever it is. -/
lemma Bound.unbroken_spell (bound : Bound) : Text.Unbroken bound.spell := by
  have words : Text.Unbroken "-inf" ∧ Text.Unbroken "inf" ∧ Text.Unbroken "NaN" := by decide
  cases bound with
  | integer n => exact Text.unbroken_intRepr n
  | float x =>
      cases x with
      | finite x => exact x.unbroken_spell (by decide) _
      | infinite negative => cases negative <;> simp [spell, Binary64.spellPlain, words]
      | nan => exact words.2.2

/-- What is said of the fault of a text is said on one line. -/
def Reason.Worded (reason : Reason) : Prop :=
  ∀ fault, reason = .invalidJson fault → Text.Unbroken fault

lemma Kind.unbroken_name (kind : Kind) : Text.Unbroken kind.name := by
  cases kind <;> decide

/-- The message about a broken rule is on one line exactly if the names are that it quotes as they
are. -/
lemma Reason.unbroken_message_iff {reason : Reason} (h : reason.Worded) :
    Text.Unbroken reason.message ↔ ∀ name ∈ reason.names, Text.Unbroken name := by
  have nameless (hmessage : Text.Unbroken reason.message) (hnames : reason.names = []) :
      Text.Unbroken reason.message ↔ ∀ name ∈ reason.names, Text.Unbroken name := by
    simp [hmessage, hnames]
  cases reason with
  | formatMismatch pattern =>
      exact (Text.unbroken_behind (by decide)).trans List.forall_mem_singleton.symm
  | notAChoice choices =>
      exact (Text.unbroken_between (by decide) (by decide)).trans
        (Text.unbroken_intercalate (by decide))
  | invalidJson fault => exact nameless ((Text.unbroken_behind (by decide)).2 (h fault rfl)) rfl
  | wrongKind expected found =>
      refine nameless (Text.unbroken_append.2 ⟨?_, found.unbroken_name⟩) rfl
      exact (Text.unbroken_between (by decide) (by decide)).2 expected.unbroken_name
  | belowMinimum bound | aboveMaximum bound =>
      exact nameless ((Text.unbroken_behind (by decide)).2 bound.unbroken_spell) rfl
  | outOfRanges ranges =>
      refine nameless ((Text.unbroken_behind (by decide)).2 ?_) rfl
      refine (Text.unbroken_intercalate (by decide)).2 (List.forall_mem_map.2 fun range _ => ?_)
      refine Text.unbroken_append.2 ⟨Text.unbroken_append.2 ⟨?_, range.2.unbroken_spell⟩, by decide⟩
      exact (Text.unbroken_between (by decide) (by decide)).2 range.1.unbroken_spell
  | tooFewCharacters n | tooManyCharacters n | tooFewItems n | tooManyItems n =>
      have hcount := Text.unbroken_natRepr n
      exact nameless ((Text.unbroken_between (by decide) (by decide)).2 hcount) rfl
  | fixedLengthMismatch expected found =>
      refine nameless (Text.unbroken_append.2 ⟨?_, Text.unbroken_natRepr found⟩) rfl
      refine Text.unbroken_append.2 ⟨?_, by decide⟩
      exact (Text.unbroken_behind (by decide)).2 (Text.unbroken_natRepr expected)
  | unexpectedBoolean expected =>
      refine nameless ((Text.unbroken_behind (by decide)).2 ?_) rfl
      cases expected <;> decide
  | _ => exact nameless (by decide) rfl

/-- The text of a violation is on one line exactly if all its names are. -/
lemma Violation.unbroken_message_iff {violation : Violation} (h : violation.reason.Worded) :
    Text.Unbroken violation.message ↔ ∀ name ∈ violation.names, Text.Unbroken name := by
  have mark : Text.Unbroken ": " := by decide
  obtain ⟨path, field, reason⟩ := violation
  rw [message, Text.unbroken_append, Text.unbroken_append, Reason.unbroken_message_iff h, location,
    names, List.forall_mem_append]
  cases path with
  | nil => simp [mark]
  | cons segment path => simp [mark, Path.unbroken_spell_iff]

/-- **The faults that are reported** are those of texts that were read. -/
lemma Schema.worded_of_mem_validate {schema : Schema} {document : Json} {violation : Violation}
    (h : violation ∈ schema.validate document) : violation.reason.Worded := by
  intro fault hfault
  rcases exists_visit_of_mem_validate h with
    ⟨field, value, -, -, check, hcheck, hbroken, hreason⟩ | ⟨-, hunknown⟩
  · have htrue := field.trueOf_checks value check hcheck hbroken
    rw [hreason, hfault] at htrue
    obtain ⟨text, -, hread⟩ := htrue
    exact Json.unbroken_of_readText_error hread
  · cases hfault.symm.trans hunknown

/-! ### The texts of defects -/

/-- What is expected of a key, and why a pattern is refused, is said on one line. -/
def Defect.Worded : Defect → Prop
  | .invalidValue key expected => Text.Unbroken key ∧ Text.Unbroken expected
  | .invalidPattern _ reason => Text.Unbroken reason
  | _ => True

/-- The message about a defect is on one line exactly if the names are that it quotes as they are.
-/
lemma Defect.unbroken_message_iff {defect : Defect} (h : defect.Worded) :
    Text.Unbroken defect.message ↔ ∀ name ∈ defect.names, Text.Unbroken name := by
  have nameless (hmessage : Text.Unbroken defect.message) (hnames : defect.names = []) :
      Text.Unbroken defect.message ↔ ∀ name ∈ defect.names, Text.Unbroken name := by
    simp [hmessage, hnames]
  cases defect with
  | documentNotObject found | fieldNotObject found =>
      exact nameless ((Text.unbroken_behind (by decide)).2 found.unbroken_name) rfl
  | unknownType name =>
      exact (Text.unbroken_behind (by decide)).trans List.forall_mem_singleton.symm
  | invalidValue key expected =>
      refine nameless (Text.unbroken_append.2 ⟨?_, h.2⟩) rfl
      exact (Text.unbroken_between (by decide) (by decide)).2 h.1
  | invalidPattern pattern reason =>
      refine nameless (Text.unbroken_append.2 ⟨?_, h⟩) rfl
      exact (Text.unbroken_between (by decide) (by decide)).2 (Text.unbroken_quoted pattern)
  | _ => exact nameless (by decide) rfl

/-- The text of a spec error is on one line exactly if the keys on its path are, and the names in
its message. -/
lemma SpecError.unbroken_message_iff {error : SpecError} (h : error.defect.Worded) :
    Text.Unbroken error.message ↔ ∀ name ∈ error.names, Text.Unbroken name := by
  have mark : Text.Unbroken ": " := by decide
  obtain ⟨path, defect⟩ := error
  have hdefect : Text.Unbroken defect.message ↔ ∀ name ∈ defect.names, Text.Unbroken name :=
    Defect.unbroken_message_iff h
  rw [message, names, List.forall_mem_append]
  cases path with
  | nil => simp [Path.keys, hdefect]
  | cons segment path => simp [mark, Path.unbroken_spell_iff, hdefect]

section

variable (members : Members)

/-- A value that does not fit its key is told of on one line, where key and expectation are. -/
lemma Members.worded_misfit {key expected : String} (hkey : Text.Unbroken key)
    (hexpected : Text.Unbroken expected) (P : Json → Prop) [DecidablePred P] :
    ∀ defect ∈ members.misfit key expected P, defect.Worded := by
  rw [misfit]
  split
  · split
    · simp
    · simpa [Defect.Worded] using ⟨hkey, hexpected⟩
  · simp

lemma Members.worded_limitDefects {expected : String} (hexpected : Text.Unbroken expected)
    (P : Json → Prop) [DecidablePred P] :
    ∀ defect ∈ members.limitDefects expected P, defect.Worded := by
  simp only [limitDefects, List.forall_mem_append]
  refine ⟨⟨⟨?_, ?_⟩, ?_⟩, ?_⟩
  · exact members.worded_misfit (by decide) hexpected _
  · exact members.worded_misfit (by decide) hexpected _
  · exact members.worded_misfit (by decide) (by decide) _
  · exact members.worded_misfit (by decide) (by decide) _

lemma Members.worded_lengthDefects : ∀ defect ∈ members.lengthDefects, defect.Worded :=
  List.forall_mem_append.2
    ⟨members.worded_misfit (by decide) (by decide) _,
      members.worded_misfit (by decide) (by decide) _⟩

/-- A pattern that cannot be read is refused on one line, whatever its text. -/
lemma Members.worded_formatDefects : ∀ defect ∈ members.formatDefects, defect.Worded := by
  have refusal : Text.Unbroken Pattern.refusal := by decide
  have expected : Text.Unbroken "format" ∧ Text.Unbroken "a string" := by decide
  rw [formatDefects]
  split
  · simp
  · split
    · simpa [Defect.Worded] using refusal
    · simp
  · simpa [Defect.Worded] using expected

/-- Whatever a field of some kind expects of its members is said on one line. -/
lemma Members.worded_kindDefects (kind : Kind) :
    ∀ defect ∈ members.kindDefects kind, defect.Worded := by
  cases kind with
  | integer | float => exact members.worded_limitDefects (by decide) _
  | string =>
      simp only [kindDefects, List.forall_mem_append]
      exact ⟨⟨members.worded_lengthDefects, members.worded_formatDefects⟩,
        members.worded_misfit (by decide) (by decide) _⟩
  | boolean => exact members.worded_misfit (by decide) (by decide) _
  | array =>
      simp only [kindDefects, List.forall_mem_append]
      refine ⟨⟨members.worded_misfit (by decide) (by decide) _, members.worded_lengthDefects⟩, ?_⟩
      rw [itemsDefects]
      split <;> simp [Defect.Worded]
  | object =>
      rw [kindDefects]
      split <;> simp [Defect.Worded]
  | null => exact fun _ h => absurd h List.not_mem_nil

/-- Whatever a field spec is refused for is said on one line, but for the name of its type. -/
lemma Members.worded_specDefects : ∀ defect ∈ members.specDefects, defect.Worded := by
  simp only [specDefects, List.forall_mem_append]
  refine ⟨⟨⟨?_, ?_⟩, members.worded_misfit (by decide) (by decide) _⟩, ?_⟩
  · rw [typeDefects]
    split <;> try split
    all_goals simp [Defect.Worded]
  · rw [nameDefects]
    split <;> try split
    all_goals simp [Defect.Worded]
  · cases members.kind? with
    | none => simp
    | some kind => exact members.worded_kindDefects kind

lemma Members.worded_documentDefects : ∀ defect ∈ members.documentDefects, defect.Worded := by
  refine List.forall_mem_append.2 ⟨members.worded_misfit (by decide) (by decide) _, ?_⟩
  split <;> simp [Defect.Worded]

end

/-- **Every defect of a spec** is told of on one line, but for the names it quotes. -/
lemma SpecSite.worded_defects (site : SpecSite) : ∀ defect ∈ site.defects, defect.Worded := by
  unfold defects
  split
  · exact Members.worded_specDefects _
  · simp [Defect.Worded]
  · exact Members.worded_documentDefects _
  · simp [Defect.Worded]

/-- **The defects of a document** name keys and expectations of this library alone. -/
lemma Schema.worded_of_mem_errors {document : Json} {error : SpecError}
    (h : error ∈ (Schema.ofSpec document).errors) : error.defect.Worded := by
  have listing := (lists document).2 []
  have here : SpecError.within [] = id := by
    funext error
    rfl
  rw [here, List.map_id] at listing
  rw [← listing] at h
  obtain ⟨site, -, hsite⟩ := List.mem_flatMap.1 h
  obtain ⟨defect, hdefect, rfl⟩ := List.mem_map.1 hsite
  exact site.worded_defects defect hdefect

/-! ### What is announced, and what follows -/

lemma append_ne_empty {s : String} (h : s ≠ "") (t : String) : s ++ t ≠ "" := by
  simp [h]

lemma Violation.message_ne_empty (violation : Violation) : violation.message ≠ "" := by
  simp [message]

lemma Defect.message_ne_empty (defect : Defect) : defect.message ≠ "" := by
  cases defect with
  | documentNotObject | fieldNotObject | unknownType => exact append_ne_empty (by decide) _
  | invalidValue | invalidPattern =>
      exact append_ne_empty (append_ne_empty (append_ne_empty (by decide) _) _) _
  | _ => decide

lemma SpecError.message_ne_empty (error : SpecError) : error.message ≠ "" := by
  rw [message]
  split
  · exact error.defect.message_ne_empty
  · simp

/-- No name that is printed with the violations has a line feed. -/
def Violation.NamesUnbroken (violations : List Violation) : Prop :=
  ∀ violation ∈ violations, ∀ name ∈ violation.names, Text.Unbroken name

/-- No name that is printed with the defects has a line feed. -/
def SpecError.NamesUnbroken (errors : List SpecError) : Prop :=
  ∀ error ∈ errors, ∀ name ∈ error.names, Text.Unbroken name

lemma Violation.forall_unbroken_message_iff {violations : List Violation}
    (h : ∀ violation ∈ violations, violation.reason.Worded) :
    (∀ text ∈ violations.map message, Text.Unbroken text) ↔ NamesUnbroken violations := by
  rw [List.forall_mem_map]
  exact forall₂_congr fun violation hviolation => unbroken_message_iff (h violation hviolation)

lemma SpecError.forall_unbroken_message_iff {errors : List SpecError}
    (h : ∀ error ∈ errors, error.defect.Worded) :
    (∀ text ∈ errors.map message, Text.Unbroken text) ↔ NamesUnbroken errors := by
  rw [List.forall_mem_map]
  exact forall₂_congr fun error herror => unbroken_message_iff (h error herror)

/-- Indented texts that are printed one a line. -/
lemma length_lines_indented_iff {α : Type} (message : α → String) (xs : List α) :
    (Text.lines (CommandLine.Output.linesText (xs.map fun x => "  " ++ message x))).length =
        xs.length ↔
      ∀ text ∈ xs.map message, Text.Unbroken text := by
  have hcount := Text.length_lines_eq_length_iff (xs.map fun x => "  " ++ message x)
  rw [List.length_map] at hcount
  rw [hcount, List.forall_mem_map, List.forall_mem_map]
  exact forall₂_congr fun x _ => Text.unbroken_behind (by decide)

lemma Violation.lineCount_messages_iff {violations : List Violation}
    (h : ∀ violation ∈ violations, violation.reason.Worded) :
    Text.lineCount (messages violations) = violations.length ↔ NamesUnbroken violations := by
  have hcount := Text.lineCount_intercalate_eq_length_iff (violations.map message)
    (List.forall_mem_map.2 fun violation _ => violation.message_ne_empty)
  rwa [List.length_map, forall_unbroken_message_iff h] at hcount

lemma SpecError.lineCount_messages_iff {errors : List SpecError}
    (h : ∀ error ∈ errors, error.defect.Worded) :
    Text.lineCount (messages errors) = errors.length ↔ NamesUnbroken errors := by
  have hcount := Text.lineCount_intercalate_eq_length_iff (errors.map message)
    (List.forall_mem_map.2 fun error _ => error.message_ne_empty)
  rwa [List.length_map, forall_unbroken_message_iff h] at hcount

/-- The lines behind the number in a report. -/
lemma Report.length_lines_following_iff {report : Report}
    (hcount : report.shown.length ≤ report.count)
    (h : ∀ violation ∈ report.shown, violation.reason.Worded) :
    (Text.lines (CommandLine.Output.linesText
        (report.shown.map (fun violation => "  " ++ violation.message) ++
          if report.hidden = 0 then []
          else ["  ... and " ++ report.hidden.repr ++ " more"]))).length =
        report.count - report.hidden + (if report.hidden = 0 then 0 else 1) ↔
      Violation.NamesUnbroken report.shown := by
  have hshown : report.count - report.hidden = report.shown.length := by
    rw [hidden]
    omega
  have hmarker : ∀ text ∈ if report.hidden = 0 then [] else
      ["  ... and " ++ report.hidden.repr ++ " more"], Text.Unbroken text := by
    split
    · exact fun _ htext => absurd htext List.not_mem_nil
    · refine List.forall_mem_singleton.2 ?_
      exact (Text.unbroken_between (by decide) (by decide)).2 (Text.unbroken_natRepr _)
  have hlines := Text.length_lines_eq_length_iff
    (report.shown.map (fun violation => "  " ++ violation.message) ++
      if report.hidden = 0 then [] else ["  ... and " ++ report.hidden.repr ++ " more"])
  rw [List.length_append, List.length_map, List.forall_mem_append, and_iff_left hmarker,
    apply_ite List.length, List.length_nil, List.length_singleton] at hlines
  rw [hshown, hlines, ← Violation.forall_unbroken_message_iff h, List.forall_mem_map,
    List.forall_mem_map]
  exact forall₂_congr fun violation _ => Text.unbroken_behind (by decide)

/-- **What is announced is what follows**, exactly if no name that is printed has a line feed.  The
texts of the violations of a document and of the defects of a spec have as many lines as there are
violations or defects; so has what follows the number in the failure of a document that does not
pass, and what follows it on the lines about a spec.  On the lines about an input the violations
that are shown follow, and one line more if others are hidden. -/
theorem lineCount_eq_announced_iff (schema : Schema) (document spec : Json) (limit : Nat)
    (input : Input) (path : String) :
    let violations := schema.validate document
    let errors := (Schema.ofSpec spec).errors
    let report := Report.of schema limit input
    (Text.lineCount (Violation.messages violations) = violations.length ↔
      Violation.NamesUnbroken violations) ∧
    (Text.lineCount (SpecError.messages errors) = errors.length ↔
      SpecError.NamesUnbroken errors) ∧
    (∀ failure, schema.check document = .error failure → ∃ following,
      failure.message = violations.length.repr ++ " violation(s):\n" ++ following ∧
        (Text.lineCount following = violations.length ↔ Violation.NamesUnbroken violations)) ∧
    (report.fault = none → report.valid = false → ∃ following,
      report.lines = (report.source ++ ": " ++ report.count.repr ++ " violation(s)") :: following ∧
        ((Text.lines (CommandLine.Output.linesText following)).length =
            report.count - report.hidden + (if report.hidden = 0 then 0 else 1) ↔
          Violation.NamesUnbroken report.shown)) ∧
    (∃ following,
      CommandLine.checkLines path (.error (.spec errors)) =
          (path ++ ": " ++ errors.length.repr ++ " error(s)") :: following ∧
        ((Text.lines (CommandLine.Output.linesText following)).length = errors.length ↔
          SpecError.NamesUnbroken errors)) := by
  have hviolations (document : Json) :
      ∀ violation ∈ schema.validate document, violation.reason.Worded :=
    fun _ => Schema.worded_of_mem_validate
  have herrors : ∀ error ∈ (Schema.ofSpec spec).errors, error.defect.Worded :=
    fun _ => Schema.worded_of_mem_errors
  refine ⟨Violation.lineCount_messages_iff (hviolations document),
    SpecError.lineCount_messages_iff herrors, ?_, ?_, _, rfl, ?_⟩
  · intro failure hfailure
    rw [Schema.check] at hfailure
    split at hfailure
    · cases hfailure
    · obtain rfl := Except.error.inj hfailure
      exact ⟨_, rfl, Violation.lineCount_messages_iff (hviolations document)⟩
  · intro hfault hvalid
    have hreport : ∃ violations : List Violation, (Report.of schema limit input).count =
        violations.length ∧ (Report.of schema limit input).shown = Report.upTo limit violations ∧
        ∀ violation ∈ violations, violation.reason.Worded := by
      cases hread : Json.readText input.text with
      | error message => simp [Report.of_readText_error hread] at hfault
      | ok document =>
          rw [Report.of_readText_ok hread]
          exact ⟨_, rfl, rfl, hviolations document⟩
    obtain ⟨violations, hcount, hshown, hworded⟩ := hreport
    refine ⟨_, Report.tells_lines hfault hvalid, Report.length_lines_following_iff ?_ ?_⟩
    · rw [hcount, hshown]
      exact Report.length_upTo_le limit violations
    · rw [hshown]
      exact fun violation hmem => hworded violation (Report.mem_of_mem_upTo hmem)
  · rw [length_lines_indented_iff, SpecError.forall_unbroken_message_iff herrors]

/-- A name with a line feed makes two lines of one violation, and of one defect. -/
theorem lineCount_ne_announced :
    let schema : Schema := ⟨[.string "a\nb" true {}], false⟩
    let spec : Json := .object [("fields", .array
      [.object [("name", .string "x"), ("type", .string "a\nb")]])]
    let violations := schema.validate (.object [])
    let errors := (Schema.ofSpec spec).errors
    (violations.length = 1 ∧ Text.lineCount (Violation.messages violations) = 2) ∧
      errors.length = 1 ∧ Text.lineCount (SpecError.messages errors) = 2 := by
  have hviolations : Schema.validate ⟨[.string "a\nb" true {}], false⟩ (.object []) =
      [⟨[.key "a\nb"], "a\nb", .required⟩] := by cbv
  have herrors : (Schema.ofSpec (.object [("fields", .array
      [.object [("name", .string "x"), ("type", .string "a\nb")]])])).errors =
      [⟨[.key "x"], .unknownType "a\nb"⟩] := by cbv
  dsimp only
  rw [hviolations, herrors]
  exact ⟨⟨rfl, by decide +kernel⟩, rfl, by decide +kernel⟩

end SchemaCheck
