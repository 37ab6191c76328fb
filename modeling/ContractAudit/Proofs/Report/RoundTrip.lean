import ContractAudit.Proofs.Json.Reader
import ContractAudit.Report.Json

/-!
# Reading a JSON report back

The fields of a document are looked up by their keys. A finding without a field `code` has no code,
which is not the same as an empty one.
-/

namespace ContractAudit

open Json (Value)

namespace Json.Value

def field? (key : String) : Value → Option Value
  | object fields => (fields.find? (·.1 = key)).map Prod.snd
  | _ => none

def text? : Value → Option String
  | text s => some s
  | _ => none

def number? : Value → Option Int
  | number n => some n
  | _ => none

def items? : Value → Option (List Value)
  | list items => some items
  | _ => none

end Json.Value

def Cell.ofJson? : Value → Option Cell
  | .null => some .absent
  | .flag b => some (.flag b)
  | .number n => some (.number n)
  | .text s => some (.text s)
  | _ => none

def Finding.ofJson? (v : Value) : Option Finding := do
  let file ← (← v.field? "file").text?
  let line ← (← v.field? "line").number?
  let severity ← Severity.ofName? (← (← v.field? "severity").text?)
  let category ← Category.ofName? (← (← v.field? "category").text?)
  let title ← Cell.ofJson? (← v.field? "title")
  let description ← Cell.ofJson? (← v.field? "description")
  let recommendation ← Cell.ofJson? (← v.field? "recommendation")
  let code ← match v.field? "code" with
    | none => some none
    | some code => code.text?.map some
  return { file, line, severity, category, title, description, recommendation, code }

def Summary.ofJson? (v : Value) : Option Summary := do
  let critical ← (← v.field? "critical").number?
  let high ← (← v.field? "high").number?
  let medium ← (← v.field? "medium").number?
  let low ← (← v.field? "low").number?
  let gas ← (← v.field? "gas").number?
  return { critical, high, medium, low, gas }

def AuditResult.ofJson? (v : Value) : Option AuditResult := do
  let files ← (← (← v.field? "files").items?).mapM Value.text?
  let issues ← (← (← v.field? "issues").items?).mapM Finding.ofJson?
  let summary ← Summary.ofJson? (← v.field? "summary")
  return { files, issues, summary }

theorem Cell.ofJson?_toJson (c : Cell) : Cell.ofJson? c.toJson = some c := by
  cases c <;> rfl

theorem Finding.field?_code (f : Finding) : f.toJson.field? "code" = f.code.map .text := by
  obtain ⟨_, _, _, _, _, _, _, code⟩ := f
  cases code <;> rfl

theorem Finding.ofJson?_toJson (f : Finding) : Finding.ofJson? f.toJson = some f := by
  obtain ⟨file, line, severity, category, title, description, recommendation, code⟩ := f
  cases code <;>
    simp [Finding.ofJson?, Finding.toJson, Value.field?, Value.text?, Value.number?,
      Severity.ofName?_name, Category.ofName?_name, Cell.ofJson?_toJson]

theorem Summary.ofJson?_toJson (s : Summary) : Summary.ofJson? s.toJson = some s := rfl

theorem mapM_map_of_inverse {α β : Type} {f : α → β} {g : β → Option α}
    (h : ∀ a, g (f a) = some a) (as : List α) : (as.map f).mapM g = some as := by
  have hInverse : g ∘ f = fun a => pure (id a) := funext h
  rw [List.mapM_map, hInverse, List.mapM_pure, List.map_id]
  rfl

theorem AuditResult.ofJson?_toJson (r : AuditResult) : AuditResult.ofJson? r.toJson = some r := by
  have hFiles : (r.files.map Value.text).mapM Value.text? = some r.files :=
    @mapM_map_of_inverse _ _ Value.text Value.text? (fun _ => rfl) r.files
  have hIssues : (r.issues.map Finding.toJson).mapM Finding.ofJson? = some r.issues :=
    mapM_map_of_inverse Finding.ofJson?_toJson r.issues
  simp [AuditResult.ofJson?, AuditResult.toJson, Value.field?, Value.items?, hFiles,
    hIssues, Summary.ofJson?_toJson]

namespace Report

theorem read_json (r : AuditResult) :
    (Json.read (json r).toList).bind AuditResult.ofJson? = some r := by
  have hRead : Json.read (json r).toList = some r.toJson :=
    Json.read_document (Json.document_render r.toJson)
  rw [hRead, Option.bind_some, AuditResult.ofJson?_toJson]

/-- The report of a result is a document, in printable ASCII characters and line feeds, and the only
value that the document spells is the result's. Looking its fields up gives back the whole result,
where a finding has a field `code` exactly if it has a code. So no two results have one report. -/
theorem json_round_trip (r : AuditResult) :
    Json.Document (json r).toList r.toJson ∧
      (∀ v, Json.Document (json r).toList v → v = r.toJson) ∧
      (∀ c ∈ (json r).toList, c = '\n' ∨ 0x20 ≤ c.toNat ∧ c.toNat ≤ 0x7E) ∧
      (Json.read (json r).toList).bind AuditResult.ofJson? = some r ∧
      (∀ f ∈ r.issues, f.toJson.field? "code" = f.code.map .text) ∧
      ∀ s, json s = json r → s = r := by
  have hDocument : Json.Document (json r).toList r.toJson := Json.document_render r.toJson
  refine ⟨hDocument, fun v hv => hv.unique hDocument, ?_, read_json r,
    fun f _ => f.field?_code, ?_⟩
  · intro c hc
    have hAll := List.all_eq_true.mp (Json.all_isAscii_layout 0 r.toJson)
    have hAscii := hAll c (by simpa [json, Json.render] using hc)
    simpa [Json.isAscii] using hAscii
  · intro s hEq
    have hRead := read_json s
    rw [hEq, read_json r] at hRead
    exact (Option.some.inj hRead).symm

end Report

end ContractAudit
