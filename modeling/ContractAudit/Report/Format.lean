import ContractAudit.Report.Json
import ContractAudit.Report.Markdown
import ContractAudit.Report.Table

/-!
# Formats of a report
-/

namespace ContractAudit.Report

inductive Format where
  | table
  | json
  | markdown
  deriving DecidableEq, Repr

namespace Format

def all : List Format :=
  [table, json, markdown]

def name : Format → String
  | table => "table"
  | json => "json"
  | markdown => "markdown"

structure Unknown where
  text : String
  deriving DecidableEq, Repr

def Unknown.message (e : Unknown) : String :=
  "Unknown report format '" ++ e.text ++ "'. Allowed: " ++ ", ".intercalate (all.map name)

def parse (text : String) : Except Unknown Format :=
  match all.find? (·.name = text) with
  | some format => .ok format
  | none => .error ⟨text⟩

end Format

def render (format : Format) (color : Bool) (r : AuditResult) : String :=
  match format with
  | .table => table color r
  | .json => json r
  | .markdown => markdown r

/-- A title that cannot be painted because it is no text. -/
structure Unpaintable where
  title : Cell
  deriving DecidableEq, Repr

def Unpaintable.message (e : Unpaintable) : String :=
  "can only concatenate str (not \"" ++ e.title.kindName ++ "\") to str"

def shown (r : AuditResult) : List Finding :=
  (Findings.bySeverity r.issues).flatMap Prod.snd

/-- The text of a report, unless a title in it would have to be painted and is no text. -/
def renderChecked (format : Format) (color : Bool) (r : AuditResult) : Except Unpaintable String :=
  match (shown r).find? (!·.title.isText) with
  | some f => if format = .table ∧ color then .error ⟨f.title⟩ else .ok (render format color r)
  | none => .ok (render format color r)

theorem renderChecked_eq_error_iff {format : Format} {color : Bool} {r : AuditResult}
    {e : Unpaintable} :
    renderChecked format color r = .error e ↔ (format = .table ∧ color = true) ∧
      ∃ f, (shown r).find? (!·.title.isText) = some f ∧ e = ⟨f.title⟩ := by
  rw [renderChecked]
  cases hFound : (shown r).find? (!·.title.isText) with
  | none =>
    constructor
    · intro h
      cases h
    · rintro ⟨-, f, hNone, -⟩
      cases hNone
  | some f =>
    simp only
    split
    · rename_i hPainted
      constructor
      · intro h
        cases h
        exact ⟨hPainted, f, rfl, rfl⟩
      · rintro ⟨-, g, hFirst, rfl⟩
        cases hFirst
        rfl
    · rename_i hPlain
      constructor
      · intro h
        cases h
      · rintro ⟨hPainted, -⟩
        exact absurd hPainted hPlain

theorem renderChecked_of_isText {r : AuditResult} (h : ∀ f ∈ shown r, f.title.isText = true)
    (format : Format) (color : Bool) :
    renderChecked format color r = .ok (render format color r) := by
  have hNone : (shown r).find? (!·.title.isText) = none := by
    rw [List.find?_eq_none]
    intro f hf
    rw [h f hf]
    decide
  rw [renderChecked, hNone]

end ContractAudit.Report
