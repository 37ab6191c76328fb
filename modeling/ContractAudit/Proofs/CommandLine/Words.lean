import ContractAudit.CommandLine.Run
import ContractAudit.Proofs.Fallible
import ContractAudit.Proofs.FileTree.Searching

/-!
# From words to settings

The texts among the settings of a command come from the words of the command line: they are words,
or what is attached to an option in one. So no setting holds a NUL character unless a word does.
-/

namespace ContractAudit

namespace CommandLine

structure Settings.NoNull (s : Settings) : Prop where
  target : hasNull s.target = false
  save : ∀ path, s.save = some path → hasNull path = false

def Effect.KeepsNoNull : Effect → Prop
  | help | version => True
  | flag set => ∀ s : Settings, s.NoNull → (set s).NoNull
  | value set clear =>
    (∀ word, hasNull word = false → ∀ s t : Settings, set word s = .ok t → s.NoNull → t.NoNull) ∧
      ∀ s : Settings, s.NoNull → (clear s).NoNull

structure Named.NoNull (n : Named) : Prop where
  effect : n.opt.effect.KeepsNoNull
  attached : ∀ text, n.attached = some text → '\x00' ∉ text

def Word.NoNull : Word → Prop
  | argument text => hasNull text = false
  | separator => True
  | option text named => hasNull text = false ∧ ∀ n, named = some n → n.NoNull

structure Chain.NoNull (c : Chain) : Prop where
  flags : ∀ o ∈ c.flags, o.effect.KeepsNoNull
  last : c.last.effect.KeepsNoNull
  attached : ∀ text, c.attached = some text → hasNull text = false

structure Progress.NoNull (p : Progress) : Prop where
  settings : p.settings.NoNull
  awaiting : ∀ chain, p.awaiting = some chain → chain.NoNull

theorem mem_of_mem_namesOf {options : List Opt} {name : List Char} {o : Opt}
    (h : (name, o) ∈ namesOf options) : o ∈ options := by
  obtain ⟨other, hOther, hName⟩ := List.mem_flatMap.mp h
  obtain ⟨text, -, hPair⟩ := List.mem_map.mp hName
  cases hPair
  exact hOther

theorem mem_of_findName {options : List Opt} {name : List Char} {o : Opt}
    (h : findName options name = some o) : o ∈ options := by
  obtain ⟨front, back, hNames, -⟩ := List.lookup_eq_some_iff.mp h
  exact mem_of_mem_namesOf (hNames ▸ List.mem_append_right front List.mem_cons_self)

theorem subset_of_splitAssignment {word value : List Char}
    (h : (splitAssignment word).2 = some value) : value ⊆ word := by
  rw [splitAssignment] at h
  split at h
  · cases h
  · rename_i mark rest hRest
    cases h
    intro c hc
    have hMem : c ∈ word.dropWhile (· ≠ '=') := hRest ▸ List.mem_cons_of_mem mark hc
    exact (List.dropWhile_sublist _).subset hMem

section

variable {options : List Opt} (hOptions : ∀ o ∈ options, o.effect.KeepsNoNull)
include hOptions

theorem noNull_of_mem_candidates {word : List Char} (hWord : '\x00' ∉ word) {n : Named}
    (h : n ∈ candidates options word) : n.NoNull := by
  rw [candidates] at h
  split at h
  · cases hSplit : splitAssignment word with
    | mk name attached =>
      rw [hSplit] at h
      obtain ⟨⟨full, o⟩, hMem, hNamed⟩ := List.mem_filterMap.mp h
      simp only at hNamed
      split at hNamed
      · cases hNamed
        refine ⟨hOptions o (mem_of_mem_namesOf hMem), fun text hText => ?_⟩
        have hValue : (splitAssignment word).2 = some text := by rw [hSplit]; exact hText
        exact fun hNull => hWord (subset_of_splitAssignment hValue hNull)
      · cases hNamed
  · obtain ⟨⟨full, o⟩, hMem, hNamed⟩ := List.mem_filterMap.mp h
    simp only at hNamed
    have hOpt := hOptions o (mem_of_mem_namesOf hMem)
    split at hNamed
    · cases hNamed
      refine ⟨hOpt, fun text hText => ?_⟩
      cases hText
      exact fun hNull => hWord (List.mem_of_mem_drop hNull)
    · split at hNamed
      · cases hNamed
        exact ⟨hOpt, fun text hText => by cases hText⟩
      · cases hNamed

theorem noNull_of_classify {text : String} (hText : hasNull text = false) {word : Word}
    (h : classify options text = .ok word) : word.NoNull := by
  have hChars := hasNull_eq_false_iff.mp hText
  rw [classify] at h
  simp only at h
  split at h
  · cases h
    exact hText
  · split at h
    · rename_i o hFound
      cases h
      refine ⟨hText, ?_⟩
      rintro n ⟨⟩
      exact ⟨hOptions o (mem_of_findName hFound), fun text hText => by cases hText⟩
    · split at h
      · cases h
        exact hText
      · split at h
        · rename_i value o hValue hFound
          cases h
          refine ⟨hText, ?_⟩
          rintro n ⟨⟩
          refine ⟨hOptions o (mem_of_findName hFound), ?_⟩
          rintro other ⟨⟩
          exact fun hNull => hChars (subset_of_splitAssignment hValue hNull)
        · split at h
          · rename_i named hCandidates
            cases h
            refine ⟨hText, ?_⟩
            rintro n ⟨⟩
            exact noNull_of_mem_candidates hOptions hChars (hCandidates ▸ List.mem_singleton_self _)
          · split at h
            · cases h
              exact hText
            · cases h
              exact ⟨hText, fun n hn => by cases hn⟩
          · cases h

theorem noNull_of_classifyAll {texts : List String} (hTexts : ∀ text ∈ texts, hasNull text = false)
    {words : List Word} (h : classifyAll options texts = .ok words) :
    ∀ word ∈ words, word.NoNull := by
  induction texts generalizing words with
  | nil =>
    cases h
    intro word hWord
    cases hWord
  | cons text rest ih =>
    obtain ⟨hFirst, hRest⟩ := List.forall_mem_cons.mp hTexts
    rw [classifyAll] at h
    split at h
    · cases h
      intro word hWord
      rcases List.mem_cons.mp hWord with rfl | hWord
      · exact trivial
      · obtain ⟨other, hOther, rfl⟩ := List.mem_map.mp hWord
        exact hRest other hOther
    · obtain ⟨first, hClass, h⟩ := exists_of_bind_eq_ok h
      obtain ⟨others, hOthers, h⟩ := exists_of_bind_eq_ok h
      cases h
      exact List.forall_mem_cons.mpr ⟨noNull_of_classify hOptions hFirst hClass, ih hRest hOthers⟩

end

section

variable {g : Grammar} (hOptions : ∀ o ∈ g.options, o.effect.KeepsNoNull)
include hOptions

theorem noNull_of_unjoin {o : Opt} (ho : o.effect.KeepsNoNull) {isShort : Bool}
    {attached : List Char} (hAttached : '\x00' ∉ attached) {chain : Chain}
    (h : unjoin g o isShort attached = .ok chain) : chain.NoNull := by
  induction attached generalizing o isShort chain with
  | nil =>
    rw [unjoin] at h
    split at h
    · cases h
      refine ⟨List.forall_mem_nil _, ho, ?_⟩
      rintro text ⟨⟩
      rfl
    · cases h
  | cons c rest ih =>
    rw [unjoin.eq_def] at h
    simp only at h
    split at h
    · cases h
      refine ⟨List.forall_mem_nil _, ho, ?_⟩
      rintro text ⟨⟩
      rwa [hasNull_eq_false_iff, String.toList_ofList]
    · split at h
      · rename_i next hFound
        have hNext := hOptions next (mem_of_findName hFound)
        split at h
        · cases h
          exact ⟨List.forall_mem_singleton.mpr ho, hNext, fun text hText => by cases hText⟩
        · obtain ⟨others, hOthers, h⟩ := exists_of_bind_eq_ok h
          cases h
          have hRest := ih hNext (fun hNull => hAttached (List.mem_cons_of_mem c hNull)) hOthers
          exact ⟨List.forall_mem_cons.mpr ⟨ho, hRest.flags⟩, hRest.last, hRest.attached⟩
      · cases h

theorem noNull_of_chainOf {n : Named} (hn : n.NoNull) {chain : Chain}
    (h : chainOf g n = .ok chain) : chain.NoNull := by
  rw [chainOf] at h
  split at h
  · cases h
    exact ⟨List.forall_mem_nil _, hn.effect, fun text hText => by cases hText⟩
  · rename_i attached hAttached
    exact noNull_of_unjoin hOptions hn.effect (hn.attached attached hAttached) h

namespace Progress

omit hOptions in
theorem noNull_of_applyFlag {p q : Progress} {o : Opt} (ho : o.effect.KeepsNoNull)
    (h : applyFlag g p o = .ok q) (hp : p.NoNull) : q.NoNull := by
  rw [applyFlag] at h
  split at h
  · cases h
  · cases h
  · rename_i set hEffect
    cases h
    rw [hEffect] at ho
    exact ⟨ho p.settings hp.settings, hp.awaiting⟩
  · cases h
    exact hp

omit hOptions in
theorem noNull_of_applyValue {p q : Progress} {o : Opt} (ho : o.effect.KeepsNoNull)
    {word : String} (hWord : hasNull word = false) (h : applyValue g p o word = .ok q)
    (hp : p.NoNull) : q.NoNull := by
  rw [applyValue] at h
  split at h
  · rename_i set clear hEffect
    rw [hEffect] at ho
    split at h
    · cases h
      exact ⟨ho.2 p.settings hp.settings, hp.awaiting⟩
    · split at h
      · rename_i settings hSet
        cases h
        exact ⟨ho.1 word hWord p.settings settings hSet hp.settings, hp.awaiting⟩
      · cases h
  · cases h
    exact hp

omit hOptions in
theorem noNull_of_foldlM_applyFlag {p q : Progress} {flags : List Opt}
    (hFlags : ∀ o ∈ flags, o.effect.KeepsNoNull) (h : flags.foldlM (applyFlag g) p = .ok q)
    (hp : p.NoNull) : q.NoNull :=
  foldlM_invariant (fun o ho _ _ hStep hs => noNull_of_applyFlag (hFlags o ho) hStep hs) h hp

omit hOptions in
theorem noNull_of_applyChain {p q : Progress} {chain : Chain} (hChain : chain.NoNull)
    {word : String} (hWord : hasNull word = false) (h : applyChain g p chain word = .ok q)
    (hp : p.NoNull) : q.NoNull := by
  obtain ⟨u, hFlags, h⟩ := exists_of_bind_eq_ok h
  have hu : u.NoNull := noNull_of_foldlM_applyFlag hChain.flags hFlags
    ⟨hp.settings, fun other hOther => by cases hOther⟩
  exact noNull_of_applyValue hChain.last hWord h hu

theorem noNull_of_takeOption {p q : Progress} {n : Named} (hn : n.NoNull)
    (h : takeOption g p n = .ok q) (hp : p.NoNull) : q.NoNull := by
  obtain ⟨chain, hChain, h⟩ := exists_of_bind_eq_ok h
  have hNoNull := noNull_of_chainOf hOptions hn hChain
  split at h
  · split at h
    · rename_i word hWord
      exact noNull_of_applyChain hNoNull (hNoNull.attached word hWord) h hp
    · cases h
      refine ⟨hp.settings, ?_⟩
      rintro other ⟨⟩
      exact hNoNull
  · refine noNull_of_foldlM_applyFlag ?_ h ⟨hp.settings, hp.awaiting⟩
    intro o ho
    rcases List.mem_append.mp ho with ho | ho
    · exact hNoNull.flags o ho
    · rw [List.mem_singleton] at ho
      exact ho ▸ hNoNull.last

omit hOptions in
theorem noNull_addExtra {p : Progress} (hp : p.NoNull) (text : String) :
    (p.addExtra text).NoNull :=
  ⟨hp.settings, hp.awaiting⟩

theorem noNull_of_step {p q : Progress} {word : Word} (hWord : word.NoNull)
    (h : step g p word = .ok q) (hp : p.NoNull) : q.NoNull := by
  rw [step.eq_def] at h
  split at h
  · rename_i chain text hAwaiting
    exact noNull_of_applyChain (hp.awaiting chain hAwaiting) hWord h hp
  · cases h
  · cases h
    split
    · exact ⟨⟨hWord, hp.settings.save⟩, hp.awaiting⟩
    · exact noNull_addExtra hp _
  · cases h
    split
    · exact hp
    · exact noNull_addExtra hp _
  · cases h
    exact noNull_addExtra hp _
  · rename_i text named hAwaiting
    exact noNull_of_takeOption hOptions (hWord.2 named rfl) h hp

end Progress

theorem noNull_of_read {texts : List String} (hTexts : ∀ text ∈ texts, hasNull text = false)
    {p : Progress} (h : g.read texts = .ok p) : p.settings.NoNull := by
  obtain ⟨words, hWords, h⟩ := exists_of_bind_eq_ok h
  obtain ⟨q, hRead, h⟩ := exists_of_bind_eq_ok h
  have hClean := noNull_of_classifyAll hOptions hTexts (eq_ok_of_mapError hWords)
  have hStart : Progress.NoNull {} :=
    ⟨⟨rfl, fun path hPath => by cases hPath⟩, fun chain hChain => by cases hChain⟩
  have hq : q.NoNull := foldlM_invariant
    (fun word hWord _ _ hStep hs => Progress.noNull_of_step hOptions (hClean word hWord) hStep hs)
    hRead hStart
  cases hAwaiting : q.awaiting with
  | some chain =>
    rw [hAwaiting] at h
    cases h
  | none =>
    rw [hAwaiting] at h
    simp only at h
    split at h
    · cases h
    · cases h
      exact hq.settings

end

theorem keepsNoNull_value {α : Type} (read : String → Except String α)
    (put : α → Settings → Settings) {clear : Settings → Settings}
    (hPut : ∀ a s, (put a s).target = s.target ∧ (put a s).save = s.save)
    (hClear : ∀ s, (clear s).target = s.target ∧ (clear s).save = s.save) :
    (Effect.value (fun word s => do return put (← read word) s) clear).KeepsNoNull := by
  refine ⟨?_, ?_⟩
  · intro word hWord s t hSet hs
    obtain ⟨a, -, hSet⟩ := exists_of_bind_eq_ok hSet
    cases hSet
    exact ⟨(hPut a s).1 ▸ hs.target, (hPut a s).2 ▸ hs.save⟩
  · intro s hs
    exact ⟨(hClear s).1 ▸ hs.target, (hClear s).2 ▸ hs.save⟩

theorem keepsNoNull_of_mem_commonOptions {o : Opt} (h : o ∈ commonOptions) :
    o.effect.KeepsNoNull := by
  simp only [commonOptions, List.mem_cons, List.not_mem_nil, or_false] at h
  rcases h with rfl | rfl | rfl
  · exact trivial
  · exact keepsNoNull_value (choose colorChoices) (fun color s => { s with color })
      (fun _ _ => ⟨rfl, rfl⟩) fun _ => ⟨rfl, rfl⟩
  · exact fun s hs => ⟨hs.target, hs.save⟩

theorem keepsNoNull_of_mem_grammar (command : Command) :
    ∀ o ∈ command.grammar.options, o.effect.KeepsNoNull := by
  intro o ho
  cases command with
  | audit =>
    simp only [Command.grammar, auditOptions, List.mem_append, List.mem_cons, List.not_mem_nil,
      or_false] at ho
    rcases ho with ho | rfl | rfl | rfl | rfl | rfl | rfl | rfl
    · exact keepsNoNull_of_mem_commonOptions ho
    · exact fun s hs => ⟨hs.target, hs.save⟩
    · exact keepsNoNull_value (choose severityChoices)
        (fun level s => { s with severity := .given level }) (fun _ _ => ⟨rfl, rfl⟩)
        fun _ => ⟨rfl, rfl⟩
    · exact fun s hs => ⟨hs.target, hs.save⟩
    · exact fun s hs => ⟨hs.target, hs.save⟩
    · exact keepsNoNull_value (choose formatChoices)
        (fun format s => { s with output := .given format }) (fun _ _ => ⟨rfl, rfl⟩)
        fun _ => ⟨rfl, rfl⟩
    · refine ⟨fun word hWord s t hSet hs => ?_, fun s hs => ⟨hs.target, fun path hPath => ?_⟩⟩
      · cases hSet
        refine ⟨hs.target, ?_⟩
        rintro path ⟨⟩
        exact hWord
      · cases hPath
    · exact keepsNoNull_value readJobs (fun jobs s => { s with jobs := .given jobs })
        (fun _ _ => ⟨rfl, rfl⟩) fun _ => ⟨rfl, rfl⟩
  | check => exact keepsNoNull_of_mem_commonOptions ho
  | patterns =>
    rcases List.mem_append.mp ho with ho | ho
    · exact keepsNoNull_of_mem_commonOptions ho
    · rw [List.mem_singleton] at ho
      subst ho
      exact keepsNoNull_value (choose categoryChoices)
        (fun category s => { s with category := some category }) (fun _ _ => ⟨rfl, rfl⟩)
        fun _ => ⟨rfl, rfl⟩
  | gas => exact keepsNoNull_of_mem_commonOptions ho

theorem hasNull_text {word : Word} (h : word.NoNull) : hasNull word.text = false := by
  cases word with
  | argument text => exact h
  | separator => rfl
  | option text named => exact h.1

theorem noNull_of_splitCommand {p : Progress} {words : List Word}
    (hWords : ∀ word ∈ words, word.NoNull) {extras rest : List String} {name : String}
    (h : splitCommand p words = .ok (extras, name, rest)) :
    ∀ text ∈ rest, hasNull text = false := by
  have hTexts : ∀ others : List Word, (∀ word ∈ others, word.NoNull) →
      ∀ text ∈ others.map Word.text, hasNull text = false := by
    intro others hOthers text hText
    obtain ⟨word, hWord, rfl⟩ := List.mem_map.mp hText
    exact hasNull_text (hOthers word hWord)
  induction words generalizing p with
  | nil => cases h
  | cons word words ih =>
    obtain ⟨-, hRest⟩ := List.forall_mem_cons.mp hWords
    cases word with
    | argument text =>
      cases h
      exact hTexts words hRest
    | separator =>
      rw [splitCommand] at h
      split at h
      · cases h
      · cases h
        exact hTexts words hRest
    | option text named =>
      obtain ⟨q, -, h⟩ := exists_of_bind_eq_ok h
      exact ih hRest h

/-- No setting of a command holds a NUL character unless a word of the command line does. -/
theorem noNull_of_readInvocation {texts : List String}
    (hTexts : ∀ text ∈ texts, hasNull text = false) {i : Invocation}
    (h : readInvocation texts = .ok i) : i.settings.NoNull := by
  have hMain : ∀ o ∈ mainGrammar.options, o.effect.KeepsNoNull := by
    intro o ho
    simp only [mainGrammar, List.mem_cons, List.not_mem_nil, or_false] at ho
    rcases ho with rfl | rfl
    · exact trivial
    · exact trivial
  obtain ⟨words, hWords, h⟩ := exists_of_bind_eq_ok h
  obtain ⟨⟨extras, name, rest⟩, hSplit, h⟩ := exists_of_bind_eq_ok h
  obtain ⟨command, -, h⟩ := exists_of_bind_eq_ok h
  obtain ⟨p, hRead, h⟩ := exists_of_bind_eq_ok h
  have hRest := noNull_of_splitCommand
    (noNull_of_classifyAll hMain hTexts (eq_ok_of_mapError hWords)) hSplit
  have hSettings := noNull_of_read (keepsNoNull_of_mem_grammar command) hRest hRead
  dsimp only at h
  split at h
  · cases h
  · cases h
    exact hSettings

end CommandLine

end ContractAudit
