import Mathlib
import SchemaCheck.Proofs.CommandLine.Validate
import SchemaCheck.Proofs.Json.Extent
import SchemaCheck.Proofs.Report

/-!
# Validating line by line

What a validation says of the lines of its inputs, compared with what it would say of them as files,
and of inputs that are laid out otherwise.

* `Input.map_bared_numbered`: what the lines of an input come down to.
* `Report.verdict`: whether a report says that its document passed, and its violations.
* `readText_eq_ok_iff_of_bared_eq`: lines that come down to the same spell the same value.
* `ValidateOptions.reports_byLine`: the reports are those about the lines as files of their own, and
  the layout of the inputs changes nothing in them but the numbers of the lines.
-/

namespace SchemaCheck

/-! ### What lines come down to -/

namespace Input

/-- What the lines come down to is what the text does. -/
lemma map_bared_numbered (input : Input) :
    input.numbered.map (fun entry => Text.bared entry.2.toList) = Text.gists input.text.toList := by
  have hlines : input.numbered.map Prod.snd =
      (Text.lines input.text).filter fun line => !isBlank line := by
    rw [numbered, List.map_map]
    have hfilter := List.filter_map (f := Prod.fst) (p := fun line => !isBlank line)
      (l := (Text.lines input.text).zipIdx 1)
    rw [List.zipIdx_map_fst] at hfilter
    exact hfilter.symm
  have hchars : ((Text.charLines input.text.toList).map String.ofList).filter
      (fun line => !isBlank line) =
        ((Text.charLines input.text.toList).filter fun line => !line.all Text.isBlank).map
          String.ofList := by
    rw [List.filter_map]
    refine congrArg _ (List.filter_congr fun line _ => ?_)
    simp [isBlank]
  calc
    _ = (input.numbered.map Prod.snd).map fun line => Text.bared line.toList := by
      rw [List.map_map]
      rfl
    _ = ((Text.charLines input.text.toList).filter fun line => !line.all Text.isBlank).map
          Text.bared := by
      rw [hlines, Text.lines_eq, hchars, List.map_map]
      exact List.map_congr_left fun line _ => congrArg Text.bared String.toList_ofList
    _ = Text.gists input.text.toList := by
      rw [← Text.flatMap_gist, Text.flatMap_gist_charLines]

end Input

/-! ### Reports -/

namespace Report

/-- Whether the document passed, and its violations. -/
def verdict (report : Report) : Bool × Nat × List Violation :=
  (report.valid, report.count, report.shown)

variable {schema : Schema} {limit : Nat} {input input' : Input}

lemma source_of (schema : Schema) (limit : Nat) (input : Input) :
    (Report.of schema limit input).source = input.source := by
  rw [Report.of]
  cases Json.readText input.text <;> rfl

lemma findings_of_text_eq (h : input.text = input'.text) :
    (Report.of schema limit input).findings = (Report.of schema limit input').findings := by
  rw [Report.of, Report.of, h]
  cases Json.readText input'.text <;> rfl

/-- The verdict depends on the value that a text spells, if any. -/
lemma verdict_of_readText
    (h : ∀ value, Json.readText input.text = .ok value ↔ Json.readText input'.text = .ok value) :
    (Report.of schema limit input).verdict = (Report.of schema limit input').verdict := by
  cases hread : Json.readText input.text with
  | ok value =>
      rw [of_readText_ok hread, of_readText_ok ((h value).1 hread)]
      rfl
  | error message =>
      cases hread' : Json.readText input'.text with
      | ok value => cases hread.symm.trans ((h value).2 hread')
      | error message' =>
          rw [of_readText_error hread, of_readText_error hread']
          rfl

end Report

/-- Carriage returns at the end of a line are of no account for the value that it spells. -/
lemma readText_bared (line : List Char) (value : Json) :
    Json.readText (String.ofList (Text.bared line)) = .ok value ↔
      Json.readText (String.ofList line) = .ok value := by
  induction line using List.reverseRecOn with
  | nil => rfl
  | append_singleton line c ih =>
      by_cases hc : c = '\r'
      · subst hc
        have hreturn : String.ofList (line ++ ['\r']) = String.ofList line ++ "\r" := by simp
        rw [Text.bared_append_return, ih, hreturn, Json.readText_append_return_eq_ok_iff]
      · rw [Text.bared, List.rdropWhile_concat_neg _ _ _ (by simpa using hc)]

lemma readText_eq_ok_iff_of_bared_eq {line line' : String}
    (h : Text.bared line.toList = Text.bared line'.toList) (value : Json) :
    Json.readText line = .ok value ↔ Json.readText line' = .ok value := by
  rw [← String.ofList_toList (s := line), ← String.ofList_toList (s := line'), ← readText_bared, h,
    readText_bared]

/-! ### Lines that stand elsewhere -/

/-- The text does not end in a carriage return. -/
def Bare (text : String) : Prop := text.toList.getLast? ≠ some '\r'

lemma bared_of_bare {text : String} (h : Bare text) : Text.bared text.toList = text.toList := by
  rw [Text.bared, List.rdropWhile_eq_self_iff]
  intro hne heq
  exact h (by rw [List.getLast?_eq_some_getLast hne, eq_of_beq heq])

/-- **Nothing but the number of a line is another one.**  Its verdict and its violations are the
same.  So is the message about a text that is not JSON, whose place counts carriage returns, if
there is none at the end of the line. -/
structure Renumbered (report : Input → Report) (line line' : Input) : Prop where
  source : ∃ source, ∃ number number' : Nat, line.source = source ++ ":" ++ number.repr ∧
    line'.source = source ++ ":" ++ number'.repr
  verdict : (report line).verdict = (report line').verdict
  findings : Bare line.text → Bare line'.text → (report line).findings = (report line').findings

lemma forall₂_of_map_eq {α β γ : Type} {f : α → γ} {g : β → γ} {xs : List α} {ys : List β}
    (h : xs.map f = ys.map g) : List.Forall₂ (fun x y => f x = g y) xs ys := by
  rwa [← List.forall₂_eq_eq_eq, List.forall₂_map_left_iff, List.forall₂_map_right_iff] at h

/-- Inputs of one name that come down to the same have the same reports line by line, but for the
numbers. -/
lemma forall₂_renumbered (schema : Schema) (limit : Nat) {input input' : Input}
    (hsource : input.source = input'.source)
    (h : Text.gists input.text.toList = Text.gists input'.text.toList) :
    List.Forall₂ (Renumbered (Report.of schema limit)) input.byLine input'.byLine := by
  rw [← Input.map_bared_numbered, ← Input.map_bared_numbered] at h
  rw [Input.byLine_eq, Input.byLine_eq, List.forall₂_map_left_iff, List.forall₂_map_right_iff]
  refine (forall₂_of_map_eq h).imp fun entry entry' hentry =>
    ⟨⟨input.source, entry.1, entry'.1, rfl, ?_⟩, ?_, ?_⟩
  · rw [hsource]
    rfl
  · exact Report.verdict_of_readText (readText_eq_ok_iff_of_bared_eq hentry)
  · intro hbare hbare'
    refine Report.findings_of_text_eq (String.toList_inj.1 ?_)
    exact ((bared_of_bare hbare).symm.trans hentry).trans (bared_of_bare hbare')

/-- **Inputs that are laid out anew** have the same lines but for their numbers. -/
lemma forall₂_renumbered_flatMap (schema : Schema) (limit : Nat) {inputs inputs' : List Input}
    (hsources : inputs.map Input.source = inputs'.map Input.source)
    (h : List.Forall₂ (fun input input' =>
      Relation.EqvGen Text.Relaid input.text.toList input'.text.toList) inputs inputs') :
    List.Forall₂ (Renumbered (Report.of schema limit)) (inputs.flatMap Input.byLine)
      (inputs'.flatMap Input.byLine) := by
  induction h with
  | nil => exact .nil
  | cons hrelaid _ ih =>
      obtain ⟨hsource, hsources⟩ := List.cons.inj hsources
      rw [List.flatMap_cons, List.flatMap_cons]
      exact List.rel_append
        (forall₂_renumbered schema limit hsource (Text.gists_eq_of_relaid hrelaid)) (ih hsources)

namespace CommandLine

/-! ### Inputs -/

section Inputs

variable {files : Files} {stdin : Json.Bytes} {paths : List String} {inputs : List Input}

/-- The name of an input in reports. -/
def sourceOf (path : String) : String := if path = "-" then "<stdin>" else path

/-- An input is named by its path, whatever was read before it. -/
lemma source_of_inputAt {before : List String} {path : String} {input : Input}
    (h : inputAt files stdin before path = .ok input) : input.source = sourceOf path := by
  rw [inputAt] at h
  rw [sourceOf]
  split at h
  · next hdash =>
      rw [if_pos hdash]
      cases htext : textOfBytes (if "-" ∈ before then [] else stdin) with
      | error error => rw [htext] at h; cases h
      | ok text =>
          rw [htext] at h
          cases h
          rfl
  · next hdash =>
      rw [if_neg hdash]
      cases htext : files.readText path with
      | error error => rw [htext] at h; cases h
      | ok text =>
          rw [htext] at h
          cases h
          rfl

/-- An input is named by its path. -/
lemma map_source_of_readInputs (h : readInputs files stdin paths = .ok inputs) :
    inputs.map Input.source = paths.map sourceOf := by
  induction paths generalizing stdin inputs with
  | nil =>
      cases h
      rfl
  | cons path paths ih =>
      obtain ⟨input, rest, hinput, hrest, rfl⟩ := readInputs_cons_eq_ok_iff.1 h
      rw [List.map_cons, List.map_cons, source_of_inputAt hinput, ih hrest]

/-- There is a file of that path, and it holds this text. -/
def Holds (files : Files) (path text : String) : Prop :=
  path ≠ "-" ∧ files.readText path = .ok text

/-- Texts that are put in files of their own are read from these. -/
lemma exists_readInputs_of_holds {documents : List Input}
    (h : List.Forall₂ (fun path document => Holds files path document.text) paths documents) :
    ∃ inputs, readInputs files stdin paths = .ok inputs ∧ inputs.map Input.source = paths ∧
      inputs.map Input.text = documents.map Input.text := by
  induction h with
  | nil => exact ⟨[], rfl, rfl, rfl⟩
  | @cons path document paths documents hfirst _ ih =>
      obtain ⟨hdash, htext⟩ := hfirst
      obtain ⟨rest, hrest, hsources, htexts⟩ := ih
      have hinput : inputAt files stdin [] path = .ok ⟨path, document.text⟩ := by
        rw [inputAt, if_neg hdash, htext]
        rfl
      refine ⟨_, readInputs_cons_eq_ok_iff.2 ⟨_, rest, hinput, ?_, rfl⟩, ?_, ?_⟩
      · rwa [if_neg hdash]
      · rw [List.map_cons, hsources]
      · rw [List.map_cons, htexts, List.map_cons]

end Inputs

namespace ValidateOptions

variable {options : ValidateOptions} {files : Files} {stdin : Json.Bytes} {settings : Settings}
  {schema : Schema} {inputs : List Input}

lemma reports_eq (hschema : options.loadSchema files settings = .ok schema)
    (hinputs : readInputs files stdin options.inputs = .ok inputs) :
    options.reports files stdin settings = .ok ((options.documents inputs).map
      (Report.of schema (options.maxViolations.getD settings.maxViolations))) := by
  rw [reports, hschema]
  simp only [loadInputs_eq, hinputs]
  rfl

/-- The findings of reports are those about the texts. -/
lemma map_findings_eq {limit : Nat} {documents : List Input}
    (htexts : inputs.map Input.text = documents.map Input.text) :
    (inputs.map (Report.of schema limit)).map Report.findings =
      documents.map fun document => (Report.of schema limit document).findings := by
  have hfindings : ∀ input, (Report.of schema limit input).findings =
      (Report.of schema limit ⟨"", input.text⟩).findings := fun input =>
    Report.findings_of_text_eq rfl
  calc
    _ = (inputs.map Input.text).map fun text => (Report.of schema limit ⟨"", text⟩).findings := by
      rw [List.map_map, List.map_map]
      exact List.map_congr_left fun input _ => hfindings input
    _ = (documents.map Input.text).map fun text =>
        (Report.of schema limit ⟨"", text⟩).findings := by
      rw [htexts]
    _ = _ := by
      rw [List.map_map]
      exact List.map_congr_left fun document _ => (hfindings document).symm

/-- Files that hold the documents give the same reports as the documents. -/
lemma exists_reports_of_holds {paths : List String} {documents : List Input}
    (hschema : options.loadSchema files settings = .ok schema)
    (hholds : List.Forall₂ (fun path document => Holds files path document.text) paths documents) :
    ∃ reports, { options with byLine := false, inputs := paths }.reports files stdin settings =
        .ok reports ∧ reports.map Report.source = paths ∧
      reports.map Report.findings = documents.map fun document => (Report.of schema
        (options.maxViolations.getD settings.maxViolations) document).findings := by
  have hschema' : { options with byLine := false, inputs := paths }.loadSchema files settings =
      .ok schema := hschema
  obtain ⟨inputs, hinputs, hsources, htexts⟩ := exists_readInputs_of_holds hholds
  have hself : { options with byLine := false, inputs := paths }.documents inputs = inputs :=
    List.flatMap_singleton' inputs
  refine ⟨_, reports_eq hschema' hinputs, ?_, ?_⟩
  · rw [hself, List.map_map, ← hsources]
    exact List.map_congr_left fun input _ => Report.source_of ..
  · rw [hself]
    exact map_findings_eq htexts

/-- **Reports line by line.**  Every line that is not blank is checked once, and what the check
finds is reported, in the order of the inputs and of their lines, under the name of the input and
the number of the line, for which blank lines count.  If these lines are put in files of their own,
the reports about the files in this order say the same.  If the inputs are laid out anew, with other
blank lines and line ends, the reports are the same but for the numbers. -/
theorem reports_byLine (hbyLine : options.byLine = true)
    (hschema : options.loadSchema files settings = .ok schema)
    (hinputs : readInputs files stdin options.inputs = .ok inputs) :
    let limit := options.maxViolations.getD settings.maxViolations
    let report := Report.of schema limit
    let documents := inputs.flatMap Input.byLine
    options.reports files stdin settings = .ok (documents.map report) ∧
    (∀ document ∈ documents, (report document).source = document.source ∧
      (report document).findings =
        Report.findingsOf limit (schema.checkText document.text)) ∧
    (∀ input ∈ inputs, ∃ lines, Text.Numbers input.text lines ∧
      input.byLine = lines.map fun (number, line) =>
        ⟨input.source ++ ":" ++ number.repr, line⟩) ∧
    (∀ copies stdin' paths, options.loadSchema copies settings = .ok schema →
      List.Forall₂ (fun path document => Holds copies path document.text) paths documents →
      ∃ reports, { options with byLine := false, inputs := paths }.reports copies stdin' settings =
          .ok reports ∧
        reports.map Report.source = paths ∧
        reports.map Report.findings = documents.map fun document => (report document).findings) ∧
    ∀ files' stdin' inputs', options.loadSchema files' settings = .ok schema →
      readInputs files' stdin' options.inputs = .ok inputs' →
      List.Forall₂ (fun input input' =>
        Relation.EqvGen Text.Relaid input.text.toList input'.text.toList) inputs inputs' →
      ∃ documents', options.reports files' stdin' settings = .ok (documents'.map report) ∧
        List.Forall₂ (Renumbered report) documents documents' := by
  intro limit report documents
  have hdocuments : ∀ inputs, options.documents inputs = inputs.flatMap Input.byLine := by
    intro inputs
    rw [ValidateOptions.documents, hbyLine]
    rfl
  refine ⟨?_, fun document _ => ⟨Report.source_of .., Report.findings_of ..⟩, fun input _ => ?_,
    fun copies stdin' paths hcopies hholds => ?_,
    fun files' stdin' inputs' hschema' hinputs' hrelaid => ?_⟩
  · rw [reports_eq hschema hinputs, hdocuments]
  · exact ⟨input.numbered, input.numbers_numbered, input.byLine_eq⟩
  · exact exists_reports_of_holds hcopies hholds
  · have hsources : inputs.map Input.source = inputs'.map Input.source := by
      rw [map_source_of_readInputs hinputs, map_source_of_readInputs hinputs']
    refine ⟨inputs'.flatMap Input.byLine, ?_, forall₂_renumbered_flatMap schema _ hsources hrelaid⟩
    rw [reports_eq hschema' hinputs', hdocuments]

/-- Two lines with a blank one between them, as files of their own and without the blank line. -/
theorem reports_byLine_relaid :
    let files : Files := ⟨fun path =>
      if path = "s.json" ∨ path = "b.json" then .ok (Json.bytesOf "\x7b\x7d")
      else if path = "a.json" then .ok (Json.bytesOf "0") else .error .notFound,
      fun _ => .error .notDirectory⟩
    let options : ValidateOptions :=
      ⟨some "s.json", none, none, ["-"], true, none, none, none⟩
    let lines : List Input := [⟨"<stdin>:1", "0"⟩, ⟨"<stdin>:3", "\x7b\x7d"⟩]
    ∃ schema, options.loadSchema files {} = .ok schema ∧
      options.reports files (Json.bytesOf "0\n\n\x7b\x7d\n") {} =
        .ok (lines.map (Report.of schema 0)) ∧
      (∀ line ∈ lines, (Report.of schema 0 line).source = line.source ∧
        (Report.of schema 0 line).findings =
          Report.findingsOf 0 (schema.checkText line.text)) ∧
      (∃ reports, { options with byLine := false, inputs := ["a.json", "b.json"] }.reports files []
          {} = .ok reports ∧ reports.map Report.source = ["a.json", "b.json"] ∧
        reports.map Report.findings = lines.map fun line => (Report.of schema 0 line).findings) ∧
      ∃ documents, options.reports files (Json.bytesOf "0\r\n\x7b\x7d") {} =
          .ok (documents.map (Report.of schema 0)) ∧
        List.Forall₂ (Renumbered (Report.of schema 0)) lines documents := by
  intro files options lines
  have hschema : options.loadSchema files {} = .ok ⟨[], false⟩ := by cbv
  have hinputs : readInputs files (Json.bytesOf "0\n\n\x7b\x7d\n") options.inputs =
      .ok [⟨"<stdin>", "0\n\n\x7b\x7d\n"⟩] := by cbv
  have hinputs' : readInputs files (Json.bytesOf "0\r\n\x7b\x7d") options.inputs =
      .ok [⟨"<stdin>", "0\r\n\x7b\x7d"⟩] := by cbv
  have hlines : [(⟨"<stdin>", "0\n\n\x7b\x7d\n"⟩ : Input)].flatMap Input.byLine = lines := by
    have hsplit : Text.lines "0\n\n\x7b\x7d\n" = ["0", "", "\x7b\x7d"] := by cbv
    have hzero : Input.isBlank "0" = false := by decide +kernel
    have hblank : Input.isBlank "" = true := by decide +kernel
    have hbraces : Input.isBlank "\x7b\x7d" = false := by decide +kernel
    simp only [List.flatMap_singleton, Input.byLine, hsplit, List.zipIdx_cons, List.zipIdx_nil,
      List.filter_cons, hzero, hblank, hbraces]
    rfl
  have hholds : List.Forall₂ (fun path (line : Input) => Holds files path line.text)
      ["a.json", "b.json"] lines :=
    .cons ⟨by decide, by cbv⟩ (.cons ⟨by decide, by cbv⟩ .nil)
  have hrelaid : Relation.EqvGen Text.Relaid "0\n\n\x7b\x7d\n".toList
      "0\r\n\x7b\x7d".toList := by
    refine .trans _ "0\n\x7b\x7d\n".toList _ (.symm _ _ (.rel _ _ ?_))
      (.trans _ "0\n\x7b\x7d".toList _ (.symm _ _ (.rel _ _ ?_)) (.rel _ _ ?_))
    · exact @Text.Relaid.blank ['0', '\n'] [] ['\n'] _ (fun c hc => (Option.some.inj hc).symm)
        (by simp) (by simp) (.inl rfl)
    · exact .last (.inl rfl)
    · exact @Text.Relaid.returned ['0'] _
  obtain ⟨hreports, hchecked, -, hfiles, hlayout⟩ := reports_byLine rfl hschema hinputs
  rw [hlines] at hreports hchecked hfiles hlayout
  exact ⟨_, hschema, hreports, hchecked, hfiles files [] _ hschema hholds,
    hlayout files _ _ hschema hinputs' (.cons hrelaid .nil)⟩

end ValidateOptions

end CommandLine

end SchemaCheck
