import ContractAudit.Page.Visit
import Mathlib.Data.List.Basic
import Mathlib.Data.List.Induction

/-!
# What a session remembers

The page is built anew on every visit, and only the session goes from one visit to the next. Two
things that a visitor does leave a trace in it: loading a file and asking for an audit. The text of
the session is that of the latest of these events, its label that of the latest load, and its result
is the audit that was asked for last. What the inputs hold otherwise is forgotten.
-/

namespace ContractAudit.Page

def Upload.text (upload : Upload) : String :=
  String.ofList (Text.Utf8.decode upload.bytes)

def Session.opened (s : Session) (i : Inputs) : Session :=
  match i.loaded? with
  | some upload => s.load upload
  | none => s

/-- What the text area holds: what was typed into it, or else the text of the session. -/
def Inputs.entered (i : Inputs) (s : Session) : String :=
  i.text.getD (s.opened i).text

def Inputs.Offered (i : Inputs) : Prop :=
  i.severity ∈ Severity.all.map Severity.name

instance (i : Inputs) : Decidable i.Offered :=
  inferInstanceAs (Decidable (_ ∈ _))

/-- The visit leaves no trace: no file is loaded, and no audit is asked for. -/
def Inputs.Quiet (i : Inputs) : Prop :=
  i.audit = false ∧ i.loaded? = none

def Session.after (s : Session) (visits : List Inputs) : Session :=
  visits.foldl (fun s i => (visit s i).session) s

def reached (history : List Inputs) : Session :=
  Session.after {} history

def latestLoad? (history : List Inputs) : Option Upload :=
  (history.filterMap Inputs.loaded?).getLast?

def labelAfter (history : List Inputs) : String :=
  (latestLoad? history).elim "inline.sol" Upload.name

/-! ## One visit -/

section

variable (s : Session) (i : Inputs)

theorem opened_text : (s.opened i).text = (i.loaded?.map Upload.text).getD s.text := by
  rw [Session.opened]
  cases i.loaded? <;> rfl

theorem opened_label : (s.opened i).label = (i.loaded?.map Upload.name).getD s.label := by
  rw [Session.opened]
  cases i.loaded? <;> rfl

theorem opened_result : (s.opened i).result = s.result := by
  rw [Session.opened]
  cases i.loaded? <;> rfl

/-- What a visit can do: it shows the result so far, or a new one, or it fails. -/
theorem visit_cases :
    (i.audit = false ∧
      visit s i = ⟨opening i (s.opened i) ++ closing s.result, s.opened i, none⟩) ∨
    (∃ r, i.audit = true ∧ auditText i (s.opened i).label (i.entered s) = .ok r ∧
      visit s i = ⟨opening i (s.opened i) ++ closing (some r),
        { s.opened i with text := i.entered s, result := some r }, none⟩) ∨
    ∃ error, i.audit = true ∧ auditText i (s.opened i).label (i.entered s) = .error error ∧
      visit s i = ⟨opening i (s.opened i), { s.opened i with text := i.entered s }, some error⟩ := by
  rw [← opened_result s i]
  cases hAudit : i.audit with
  | false =>
    refine .inl ⟨rfl, ?_⟩
    simp only [visit, hAudit]
    rfl
  | true =>
    refine .inr ?_
    cases hText : auditText i (s.opened i).label (i.entered s) with
    | ok r =>
      refine .inl ⟨r, rfl, rfl, ?_⟩
      cases hLoad : i.loaded?
      all_goals
        simp only [Inputs.entered, Session.opened, hLoad] at hText ⊢
        simp only [visit, hLoad, hAudit, if_true, hText]
    | error error =>
      refine .inr ⟨error, rfl, rfl, ?_⟩
      cases hLoad : i.loaded?
      all_goals
        simp only [Inputs.entered, Session.opened, hLoad] at hText ⊢
        simp only [visit, hLoad, hAudit, if_true, hText]

theorem visit_text :
    (visit s i).session.text = if i.audit then i.entered s else (s.opened i).text := by
  obtain ⟨hAudit, hVisit⟩ | ⟨r, hAudit, -, hVisit⟩ | ⟨error, hAudit, -, hVisit⟩ := visit_cases s i
  all_goals rw [hVisit, hAudit]; rfl

theorem visit_label : (visit s i).session.label = (s.opened i).label := by
  obtain ⟨-, hVisit⟩ | ⟨r, -, -, hVisit⟩ | ⟨error, -, -, hVisit⟩ := visit_cases s i
  all_goals rw [hVisit]

end

variable {s : Session} {i : Inputs}

theorem visit_text_of_quiet (h : i.Quiet) : (visit s i).session.text = s.text := by
  rw [visit_text, h.1, opened_text, h.2]
  rfl

theorem visit_result_of_not_audit (h : i.audit = false) :
    (visit s i).session.result = s.result := by
  obtain ⟨-, hVisit⟩ | ⟨r, hAudit, -⟩ | ⟨error, hAudit, -⟩ := visit_cases s i
  · rw [hVisit, opened_result]
  · rw [h] at hAudit
    cases hAudit
  · rw [h] at hAudit
    cases hAudit

theorem exists_auditText_of_offered (h : i.Offered) (label text : String) :
    ∃ r, auditText i label text = .ok r := by
  obtain ⟨level, -, hLevel⟩ := List.mem_map.mp h
  have hParse : Severity.parse i.severity = .ok level := by
    rw [← hLevel]
    cases level <;> rfl
  rw [auditText, hParse]
  exact ⟨_, rfl⟩

theorem visit_result_of_audit (h : i.audit = true) (hOffered : i.Offered) :
    ∃ r, auditText i (s.opened i).label (i.entered s) = .ok r ∧
      (visit s i).session.result = some r := by
  obtain ⟨r, hText⟩ := exists_auditText_of_offered hOffered (s.opened i).label (i.entered s)
  obtain ⟨hAudit, -⟩ | ⟨found, -, hFound, hVisit⟩ | ⟨error, -, hError, -⟩ := visit_cases s i
  · rw [h] at hAudit
    cases hAudit
  · exact ⟨found, hFound, by rw [hVisit]⟩
  · rw [hText] at hError
    cases hError

theorem visit_elements (hOffered : i.audit = true → i.Offered) :
    (visit s i).error = none ∧
      (visit s i).elements = opening i (s.opened i) ++ closing (visit s i).session.result := by
  obtain ⟨-, hVisit⟩ | ⟨r, -, -, hVisit⟩ | ⟨error, hAudit, hError, -⟩ := visit_cases s i
  · rw [hVisit, opened_result]
    exact ⟨rfl, rfl⟩
  · rw [hVisit]
    exact ⟨rfl, rfl⟩
  · obtain ⟨r, hText⟩ :=
      exists_auditText_of_offered (hOffered hAudit) (s.opened i).label (i.entered s)
    rw [hText] at hError
    cases hError

/-! ## Any number of visits -/

theorem after_append (before later : List Inputs) :
    s.after (before ++ later) = (s.after before).after later :=
  List.foldl_append

theorem reached_append (before later : List Inputs) :
    reached (before ++ later) = (reached before).after later :=
  after_append before later

theorem reached_concat (before : List Inputs) (i : Inputs) :
    reached (before ++ [i]) = (visit (reached before) i).session :=
  reached_append before [i]

theorem after_text_of_quiet {later : List Inputs} (h : ∀ i ∈ later, i.Quiet) :
    (s.after later).text = s.text := by
  induction later generalizing s with
  | nil => rfl
  | cons i later ih =>
    obtain ⟨hFirst, hLater⟩ := List.forall_mem_cons.mp h
    exact (ih hLater).trans (visit_text_of_quiet hFirst)

theorem after_result_of_not_audit {later : List Inputs} (h : ∀ i ∈ later, i.audit = false) :
    (s.after later).result = s.result := by
  induction later generalizing s with
  | nil => rfl
  | cons i later ih =>
    obtain ⟨hFirst, hLater⟩ := List.forall_mem_cons.mp h
    exact (ih hLater).trans (visit_result_of_not_audit hFirst)

theorem labelAfter_concat (before : List Inputs) (i : Inputs) :
    labelAfter (before ++ [i]) = (i.loaded?.map Upload.name).getD (labelAfter before) := by
  rw [labelAfter, labelAfter, latestLoad?, latestLoad?, List.filterMap_append]
  cases hLoad : i.loaded? with
  | none => simp [hLoad]
  | some upload => simp [hLoad]

theorem reached_label (history : List Inputs) : (reached history).label = labelAfter history := by
  induction history using List.reverseRecOn with
  | nil => rfl
  | append_singleton before i ih =>
    rw [reached_concat, visit_label, opened_label, ih, labelAfter_concat]

theorem opened_label_reached (before : List Inputs) (i : Inputs) :
    ((reached before).opened i).label = labelAfter (before ++ [i]) := by
  rw [opened_label, reached_label, labelAfter_concat]

/-! ## What a page shows of a result -/

def Element.metric? : Element → Option (String × Int)
  | metric _ label value => some (label, value)
  | _ => none

def Element.code? : Element → Option String
  | code text _ => some text
  | _ => none

def Element.download? : Element → Option String
  | download _ data _ _ => some data
  | _ => none

def Element.alert? : Element → Option Element
  | e@(info _) | e@(success _) | e@(warning _) | e@(error _) => some e
  | _ => none

def announcement (level : Severity) (f : Finding) : Element :=
  alert level ("**" ++ f.title.display ++ "** (" ++ place f ++ "): " ++ f.description.display)

/-- The metrics, messages, source lines and downloads among the elements are those of the result, and
there are no others. -/
structure Displays (elements : List Element) (r : AuditResult) : Prop where
  metrics : elements.filterMap Element.metric? =
    [("Critical", r.summary.critical), ("High", r.summary.high), ("Medium", r.summary.medium),
      ("Low", r.summary.low), ("Gas", r.summary.gas)]
  findings : elements.filterMap Element.alert? =
    if r.issues = [] then [.success "No security issues found!"]
    else (Findings.bySeverity r.issues).flatMap fun (level, findings) =>
      findings.map (announcement level)
  codes : elements.filterMap Element.code? =
    (Findings.bySeverity r.issues).flatMap fun (_, findings) => findings.filterMap Finding.shownCode?
  downloads : elements.filterMap Element.download? = [Report.markdown r]

theorem filterMap_singleton {β : Type} (view : Element → Option β) (e : Element) :
    [e].filterMap view = (view e).toList := by
  cases hView : view e <;> simp [hView]

/-- A view of elements that sees neither headings nor captions; of a finding it sees what the
message and the source line give it. -/
structure SeesFindings {β : Type} (view : Element → Option β)
    (message : Severity → Finding → Option β) (line : String → Option β) : Prop where
  markdown : ∀ text, view (.markdown text) = none
  subheader : ∀ text, view (.subheader text) = none
  caption : ∀ text, view (.caption text) = none
  announcement : ∀ level f, view (announcement level f) = message level f
  code : ∀ text, view (.code text "solidity") = line text

namespace SeesFindings

variable {β : Type} {view : Element → Option β} {message : Severity → Finding → Option β}
  {line : String → Option β} (h : SeesFindings view message line)
include h

theorem filterMap_findingElements (level : Severity) (f : Finding) :
    (findingElements level f).filterMap view =
      (message level f).toList ++ (f.shownCode?.bind line).toList := by
  have hSplit : findingElements level f = [Page.announcement level f] ++
      (f.shownCode?.map fun code => Element.code code "solidity").toList ++
        [.caption f.recommendation.display] := rfl
  rw [hSplit, List.filterMap_append, List.filterMap_append, filterMap_singleton,
    filterMap_singleton, h.announcement, h.caption, Option.toList_none, List.append_nil]
  cases f.shownCode? with
  | none => rfl
  | some code =>
    rw [Option.map_some, Option.toList_some, filterMap_singleton, h.code, Option.bind_some]

theorem filterMap_closing (r : AuditResult) :
    (closing (some r)).filterMap view =
      (metrics r.summary).filterMap view ++
      (if r.issues = [] then (view (.success "No security issues found!")).toList
        else (Findings.bySeverity r.issues).flatMap fun bucket => bucket.2.flatMap fun f =>
          (message bucket.1 f).toList ++ (f.shownCode?.bind line).toList) ++
      (view (.download "Download markdown report" (Report.markdown r) "audit-report.md"
        "text/markdown")).toList := by
  have hBucket : ∀ bucket : Severity × List Finding, (bucketElements bucket).filterMap view =
      bucket.2.flatMap fun f => (message bucket.1 f).toList ++ (f.shownCode?.bind line).toList := by
    intro bucket
    rw [bucketElements, List.filterMap_cons_none (h.markdown _), List.filterMap_flatMap]
    simp only [h.filterMap_findingElements]
  rw [closing, List.filterMap_append, List.filterMap_append, List.filterMap_append,
    List.filterMap_cons_none (h.subheader _), filterMap_singleton, filterMap_singleton,
    h.subheader, Option.toList_none, List.append_nil]
  split
  · rw [filterMap_singleton]
  · rw [List.filterMap_flatMap]
    simp only [hBucket]

end SeesFindings

theorem flatMap_flatMap_nil {β : Type} (buckets : List (Severity × List Finding)) :
    (buckets.flatMap fun bucket => bucket.2.flatMap fun _ => ([] : List β)) = [] := by
  simp [List.flatMap_eq_nil_iff]

theorem displays_closing (r : AuditResult) : Displays (closing (some r)) r where
  metrics := by
    have hView : SeesFindings Element.metric? (fun _ _ => none) (fun _ => none) :=
      ⟨fun _ => rfl, fun _ => rfl, fun _ => rfl, fun level _ => by cases level <;> rfl,
        fun _ => rfl⟩
    rw [hView.filterMap_closing]
    simp only [Option.bind_fun_none, Option.toList_none, List.append_nil, flatMap_flatMap_nil]
    rw [show (Element.success "No security issues found!").metric?.toList = [] from rfl, ite_self]
    rfl
  findings := by
    have hView : SeesFindings Element.alert? (fun level f => some (announcement level f))
        (fun _ => none) :=
      ⟨fun _ => rfl, fun _ => rfl, fun _ => rfl, fun level _ => by cases level <;> rfl,
        fun _ => rfl⟩
    rw [hView.filterMap_closing]
    simp only [Option.bind_fun_none, Option.toList_none, List.append_nil, Option.toList_some,
      List.map_eq_flatMap]
    exact List.append_nil _
  codes := by
    have hView : SeesFindings Element.code? (fun _ _ => none) some :=
      ⟨fun _ => rfl, fun _ => rfl, fun _ => rfl, fun level _ => by cases level <;> rfl,
        fun _ => rfl⟩
    rw [hView.filterMap_closing]
    simp only [Option.bind_fun_some, Option.toList_none, List.nil_append,
      List.filterMap_eq_flatMap_toList]
    by_cases hIssues : r.issues = []
    · rw [if_pos hIssues, hIssues]
      rfl
    · rw [if_neg hIssues]
      exact List.append_nil _
  downloads := by
    have hView : SeesFindings Element.download? (fun _ _ => none) (fun _ => none) :=
      ⟨fun _ => rfl, fun _ => rfl, fun _ => rfl, fun level _ => by cases level <;> rfl,
        fun _ => rfl⟩
    rw [hView.filterMap_closing]
    simp only [Option.bind_fun_none, Option.toList_none, List.append_nil, flatMap_flatMap_nil]
    rw [show (Element.success "No security issues found!").download?.toList = [] from rfl, ite_self]
    rfl

theorem unseen_of_mem_opening {e : Element} (h : e ∈ opening i s) :
    e.metric? = none ∧ e.alert? = none ∧ e.code? = none ∧ e.download? = none := by
  have hSidebar : ∀ e ∈ sidebar i,
      e.metric? = none ∧ e.alert? = none ∧ e.code? = none ∧ e.download? = none := by
    rw [sidebar]
    split
    · split <;> decide
    · decide
  simp only [opening, List.cons_append, List.mem_cons, List.mem_append, List.not_mem_nil,
    or_false] at h
  rcases h with rfl | h | rfl | rfl | rfl | rfl
  · exact ⟨rfl, rfl, rfl, rfl⟩
  · exact hSidebar e h
  all_goals exact ⟨rfl, rfl, rfl, rfl⟩

theorem displays_page (r : AuditResult) : Displays (opening i s ++ closing (some r)) r := by
  have hUnseen : ∀ {β : Type} {view : Element → Option β},
      (∀ e ∈ opening i s, view e = none) →
      (opening i s ++ closing (some r)).filterMap view = (closing (some r)).filterMap view := by
    intro β view hView
    rw [List.filterMap_append, List.filterMap_eq_nil_iff.mpr hView, List.nil_append]
  have hClosing := displays_closing r
  constructor
  · rw [hUnseen fun e he => (unseen_of_mem_opening he).1, hClosing.metrics]
  · rw [hUnseen fun e he => (unseen_of_mem_opening he).2.1, hClosing.findings]
  · rw [hUnseen fun e he => (unseen_of_mem_opening he).2.2.1, hClosing.codes]
  · rw [hUnseen fun e he => (unseen_of_mem_opening he).2.2.2, hClosing.downloads]

/-! ## The session and its history -/

/-- The text is that of the latest event: of the audit asked for last or of the file loaded last,
where a load comes before an audit in the same visit. Without an event it is empty. -/
structure FollowsText (history : List Inputs) (text : String) : Prop where
  untouched : (∀ i ∈ history, i.Quiet) → text = ""
  loaded : ∀ before i later upload, history = before ++ i :: later → i.loaded? = some upload →
    i.audit = false → (∀ j ∈ later, j.Quiet) → text = upload.text
  audited : ∀ before i later, history = before ++ i :: later → i.audit = true →
    (∀ j ∈ later, j.Quiet) → text = i.entered (reached before)

/-- There is a result once an audit was asked for, and it is that of the audit asked for last: of
what the text area held then, under the label, the level and the options of then. -/
structure FollowsResult (history : List Inputs) (result : Option AuditResult) : Prop where
  none_iff : result = none ↔ ∀ i ∈ history, i.audit = false
  latest : ∀ before i later, history = before ++ i :: later → i.audit = true →
    (∀ j ∈ later, j.audit = false) →
    ∃ r, auditText i (labelAfter (before ++ [i])) (i.entered (reached before)) = .ok r ∧
      result = some r

theorem reached_split (before later : List Inputs) (i : Inputs) :
    reached (before ++ i :: later) = (visit (reached before) i).session.after later :=
  reached_append before (i :: later)

theorem followsText_reached (history : List Inputs) :
    FollowsText history (reached history).text where
  untouched := after_text_of_quiet
  loaded := by
    rintro before i later upload rfl hLoad hAudit hLater
    rw [reached_split, after_text_of_quiet hLater, visit_text, hAudit, opened_text, hLoad]
    rfl
  audited := by
    rintro before i later rfl hAudit hLater
    rw [reached_split, after_text_of_quiet hLater, visit_text, hAudit]
    rfl

theorem reached_result_eq_none_iff {history : List Inputs}
    (hOffered : ∀ i ∈ history, i.audit = true → i.Offered) :
    (reached history).result = none ↔ ∀ i ∈ history, i.audit = false := by
  -- By the last visit: it keeps the result or sets one, and no visit takes a result away.
  induction history using List.reverseRecOn with
  | nil => exact iff_of_true rfl (List.forall_mem_nil _)
  | append_singleton before i ih =>
    rw [List.forall_mem_append, List.forall_mem_singleton] at hOffered ⊢
    rw [reached_concat]
    cases hAudit : i.audit with
    | false =>
      rw [visit_result_of_not_audit hAudit, ih hOffered.1]
      exact (and_iff_left rfl).symm
    | true =>
      obtain ⟨r, -, hResult⟩ :=
        @visit_result_of_audit (reached before) i hAudit (hOffered.2 hAudit)
      rw [hResult]
      exact iff_of_false (Option.some_ne_none r) fun h => Bool.noConfusion h.2

theorem followsResult_reached {history : List Inputs}
    (hOffered : ∀ i ∈ history, i.audit = true → i.Offered) :
    FollowsResult history (reached history).result where
  none_iff := reached_result_eq_none_iff hOffered
  latest := by
    rintro before i later rfl hAudit hLater
    have hMem : i ∈ before ++ i :: later := List.mem_append_right before List.mem_cons_self
    rw [reached_split, after_result_of_not_audit hLater, ← opened_label_reached]
    exact visit_result_of_audit hAudit (hOffered i hMem hAudit)

/-- After any visits the text of the session is that of the latest event. As long as audits are asked
for with levels that the page offers, there is a result exactly if one was asked for, it is that of
the latest one, whatever was changed or loaded since, and the last visit shows this result and no
other. -/
theorem session_follows_events (history : List Inputs) :
    FollowsText history (reached history).text ∧
    ((∀ i ∈ history, i.audit = true → i.Offered) →
      FollowsResult history (reached history).result ∧
      ∀ before i, history = before ++ [i] →
        (visit (reached before) i).session = reached history ∧
        (visit (reached before) i).error = none ∧
        (visit (reached before) i).elements =
          opening i ((reached before).opened i) ++ closing (reached history).result ∧
        ∀ r, (reached history).result = some r →
          Displays (visit (reached before) i).elements r) := by
  refine ⟨followsText_reached history, ?_⟩
  intro hOffered
  refine ⟨followsResult_reached hOffered, ?_⟩
  rintro before i rfl
  have hMem : i ∈ before ++ [i] := List.mem_append_right before List.mem_cons_self
  obtain ⟨hError, hElements⟩ := @visit_elements (reached before) i (hOffered i hMem)
  refine ⟨(reached_concat before i).symm, hError, ?_, ?_⟩
  · rw [hElements, reached_concat]
  · intro r hResult
    rw [reached_concat] at hResult
    rw [hElements, hResult]
    exact displays_page r

def loadAndAudit : Inputs where
  source := uploadSource
  upload := some ⟨"a.sol", Text.Utf8.encode "selfdestruct(x);".toList⟩
  load := true
  severity := "high"
  audit := true

def loadAnother : Inputs where
  source := uploadSource
  upload := some ⟨"b.sol", Text.Utf8.encode "uint b;".toList⟩
  load := true
  gas := true
  text := some "now"

/-- The second file is loaded and the options are changed, and the result stays that of the first
one. -/
theorem session_follows_events_loaded :
    (∀ i ∈ [loadAndAudit, loadAnother], i.audit = true → i.Offered) ∧
      (reached [loadAndAudit, loadAnother]).text = "uint b;" ∧
      ∃ r, auditText loadAndAudit "a.sol" "selfdestruct(x);" = .ok r ∧ r.issues.length = 1 ∧
        Displays (visit (reached [loadAndAudit]) loadAnother).elements r := by
  have hOffered : ∀ i ∈ [loadAndAudit, loadAnother], i.audit = true → i.Offered := by decide +kernel
  obtain ⟨hText, hRest⟩ := session_follows_events [loadAndAudit, loadAnother]
  obtain ⟨hResult, hShown⟩ := hRest hOffered
  obtain ⟨-, -, -, hDisplays⟩ := hShown [loadAndAudit] loadAnother rfl
  have hLoaded := hText.loaded [loadAndAudit] loadAnother [] ⟨"b.sol", _⟩ rfl rfl rfl
    (List.forall_mem_nil _)
  obtain ⟨r, hAudit, hLatest⟩ := hResult.latest [] loadAndAudit [loadAnother] rfl rfl
    (List.forall_mem_singleton.mpr rfl)
  have hAudit : auditText loadAndAudit "a.sol" "selfdestruct(x);" = .ok r := hAudit
  have hCount : (auditText loadAndAudit "a.sol" "selfdestruct(x);").map (·.issues.length) = .ok 1 := by
    decide +kernel
  rw [hAudit] at hCount
  exact ⟨hOffered, hLoaded.trans (by decide +kernel), r, hAudit, Except.ok.inj hCount,
    hDisplays r hLatest⟩

end ContractAudit.Page
