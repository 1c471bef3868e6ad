import Mathlib
import SchemaCheck.CommandLine.Run
import SchemaCheck.Proofs.Spec.Depth
import SchemaCheck.Proofs.Spec.Legible
import SchemaCheck.Proofs.Spec.Normal

/-!
# Normalizing again

The text that normalizing a schema prints is itself a schema, and the same one.

* `Schema.ofBytes_normalText`: the text is read as the schema that it was printed for.
* `CommandLine.runNormalize_normalized`: a file with that text gives the same schema, and
  normalizing it prints the same text.
-/

namespace SchemaCheck

/-- A schema comes from the document that the bytes of its file spell. -/
lemma Schema.exists_document_of_ofFile {files : Files} {path : String} {schema : Schema}
    (h : Schema.ofFile files path = .ok schema) :
    ∃ bytes document, files.read path = .ok bytes ∧ Json.read bytes = .ok document ∧
      Schema.ofSpec document = .ok schema := by
  rw [ofFile] at h
  split at h
  · next bytes hbytes =>
      obtain ⟨document, hdocument, hspec⟩ := exists_document_of_ofBytes h
      exact ⟨bytes, document, hbytes, hdocument, hspec⟩
  · cases h

lemma Schema.ofFile_of_ofBytes {files : Files} {path : String} {bytes : Json.Bytes}
    {schema : Schema} (hbytes : files.read path = .ok bytes) (h : ofBytes bytes = .ok schema) :
    ofFile files path = .ok schema := by
  rw [ofFile, hbytes]
  exact h

/-- **The printed text is the schema that it was printed for**, where the document that the schema
came from leaves room for one more list. -/
theorem Schema.ofBytes_normalText {document : Json} {schema : Schema}
    (h : Schema.ofSpec document = .ok schema) (hdepth : document.depth < Json.depthLimit)
    (hlimits : schema.Everywhere Field.NoFloatLimits) :
    Schema.ofBytes (Json.bytesOf (CommandLine.normalText schema ++ "\n")) = .ok schema := by
  have hrep : schema.Representable :=
    representable_of_ofSpec (fun _ => Field.NoFloatLimits.finiteLimits) h hlimits
  have hnormal : schema.toSpec = normalDocument document := (toSpec_of_ofSpec document).2 schema h
  have hle : schema.toSpec.depth ≤ Json.depthLimit := by
    rw [hnormal]
    exact Nat.le_trans (oneDeeper_normal document).2 hdepth
  exact ofBytes_pretty (fun _ => Field.NoFloatLimits.legibleLimits) hrep hlimits hle

namespace CommandLine

lemma stdout_success (line : String) : (Output.success [line]).stdout = line ++ "\n" := by
  simp [Output.success, Output.linesText, String.join]

/-- A schema that is loaded is printed in its normal form. -/
lemma runNormalize_of_ofFile {files : Files} {path : String} {schema : Schema}
    (h : Schema.ofFile files path = .ok schema) :
    runNormalize files path none = .done (.success [normalText schema]) := by
  have hschema : schemaOf files path = .ok schema := mapError_eq_ok_iff.2 h
  unfold runNormalize
  rw [hschema]

/-- **Normalizing a normalized schema changes nothing.**  Let a file hold a schema that sets no
limits for binary numbers, in a document that nests at most 126 arrays and objects.  Normalizing it
succeeds.  Whatever file holds the text that is printed, that file holds the same schema, which is
equal to itself as it has no limit that is a NaN, and normalizing it prints the same text. -/
theorem runNormalize_normalized {files : Files} {path : String} {schema : Schema}
    (hload : Schema.ofFile files path = .ok schema)
    (hdepth : ∀ bytes document, files.read path = .ok bytes → Json.read bytes = .ok document →
      document.depth ≤ 126)
    (hlimits : schema.Everywhere Field.NoFloatLimits) :
    ∃ output, runNormalize files path none = .done output ∧
      output.code = 0 ∧ output.stdout = schema.toSpec.pretty ++ "\n" ∧
      ∀ (copies : Files) (copy : String), copies.read copy = .ok (Json.bytesOf output.stdout) →
        Schema.ofFile copies copy = .ok schema ∧ schema.same schema = true ∧
          runNormalize copies copy none = .done output := by
  obtain ⟨bytes, document, hbytes, hdocument, hspec⟩ := Schema.exists_document_of_ofFile hload
  have hroom : document.depth < Json.depthLimit :=
    Nat.lt_succ_of_le (hdepth bytes document hbytes hdocument)
  have hback := Schema.ofBytes_normalText hspec hroom hlimits
  have hrep : schema.Representable :=
    Schema.representable_of_ofSpec (fun _ => Field.NoFloatLimits.finiteLimits) hspec hlimits
  have hprinted : (Output.success [normalText schema]).stdout = normalText schema ++ "\n" :=
    stdout_success (normalText schema)
  refine ⟨.success [normalText schema], runNormalize_of_ofFile hload, rfl, hprinted, ?_⟩
  intro copies copy hcopy
  rw [hprinted] at hcopy
  have hagain := Schema.ofFile_of_ofBytes hcopy hback
  exact ⟨hagain, Schema.same_self hrep, runNormalize_of_ofFile hagain⟩

/-- A name with escapes, and a schema that says nothing of its fields. -/
theorem runNormalize_normalized_escapes :
    let text := "\x7b\"fields\": [\x7b\"name\": \"a\\\"\\u00e9\", \"type\": \"object\",\n" ++
      "  \"schema\": \x7b\"strict\": true\x7d\x7d]\x7d"
    let files : Files := ⟨fun path => if path = "a.json" then .ok (Json.bytesOf text)
      else .error .notFound, fun _ => .error .notDirectory⟩
    let schema : Schema := ⟨[.object "a\"é" false ⟨[], true⟩], false⟩
    Schema.ofFile files "a.json" = .ok schema ∧
      (∀ bytes document, files.read "a.json" = .ok bytes → Json.read bytes = .ok document →
        document.depth ≤ 126) ∧
      schema.Everywhere Field.NoFloatLimits ∧
      ∃ output, runNormalize files "a.json" none = .done output ∧
        output.code = 0 ∧ output.stdout = schema.toSpec.pretty ++ "\n" ∧
        ∀ (copies : Files) (copy : String), copies.read copy = .ok (Json.bytesOf output.stdout) →
          Schema.ofFile copies copy = .ok schema ∧ schema.same schema = true ∧
            runNormalize copies copy none = .done output := by
  intro text files schema
  have hload : Schema.ofFile files "a.json" = .ok schema := by cbv
  have hdocument : Json.read (Json.bytesOf text) = .ok (.object [("fields", .array [.object
      [("name", .string "a\"é"), ("type", .string "object"),
        ("schema", .object [("strict", .bool true)])]])]) := by cbv
  have hdepth : ∀ bytes document, files.read "a.json" = .ok bytes →
      Json.read bytes = .ok document → document.depth ≤ 126 := by
    intro bytes document hbytes hread
    obtain rfl := Except.ok.inj hbytes
    obtain rfl := Except.ok.inj (hdocument.symm.trans hread)
    decide
  have hlimits : schema.Everywhere Field.NoFloatLimits := ⟨⟨trivial, trivial⟩, trivial⟩
  exact ⟨hload, hdepth, hlimits, runNormalize_normalized hload hdepth hlimits⟩

end CommandLine

end SchemaCheck
