import FlowView.Proofs.Content
/-!
# Changes of the content

What each change of the tables does to their content: which rows it takes out and which it puts in. The
constraints are needed where links are concerned, for a link tells its variable by a reference.
-/

namespace FlowView.Store

variable {s : Store}

/-! ## Rows of one table -/

/-- Where rows of one table are exchanged for others, so is what they say. -/
theorem content_exchange (n : Nat) {α : Type} {entry : α → Entry} {rows rows' out new : List α} {s' : Store}
    (hs : s.parts[n]? = some (rows.map entry)) (hs' : s'.parts = s.parts.set n (rows'.map entry))
    (h : (rows' ++ out).Perm (rows ++ new)) : s'.content + out.map entry = s.content + new.map entry := by
  have hmap := h.map entry
  rw [List.map_append, List.map_append] at hmap
  exact content_swap n hs hs' hmap

/-! ## Links -/

/-- Links say what they said where their variables have the instances and names that they had. -/
theorem shown_congr {s s' : Store} {ls : List VariableLink}
    (h : ∀ l ∈ ls, (s'.linked? l).map Cache.variableKey = (s.linked? l).map Cache.variableKey) :
    ls.filterMap s'.shown? = ls.filterMap s.shown? := by
  have hsplit (s : Store) (l : VariableLink) : s.shown? l =
      ((s.linked? l).map Cache.variableKey).map fun k => .shown l.taskId k.1 k.2 := by
    rw [shown?, Option.map_map]
    rfl
  refine List.filterMap_congr fun l hl => ?_
  rw [hsplit, hsplit, h l hl]

theorem content_withLinks (s : Store) (ls : List VariableLink) :
    (s.withLinks ls).content = s.content + ls.filterMap s.shown? := by
  have hparts : (s.links ++ ls).filterMap s.shown? ++ [] =
      s.links.filterMap s.shown? ++ ls.filterMap s.shown? := by
    rw [List.filterMap_append, List.append_nil]
  have hswap : (s.withLinks ls).content + ([] : List Entry) = s.content + ls.filterMap s.shown? :=
    content_swap 4 rfl rfl (.of_eq hparts)
  simpa using hswap

/-- Links to variables that are there say so. -/
theorem Sound.filterMap_shown (hs : s.Sound) {α : Type} (taskId : α → String) (v : α → ProcessVariable)
    {xs : List α} (h : ∀ x ∈ xs, v x ∈ s.processVariables) :
    (xs.map fun x => VariableLink.mk (taskId x) (v x).id).filterMap s.shown? =
      xs.map fun x => .shown (taskId x) (v x).instanceId (v x).name := by
  rw [List.filterMap_map, ← List.filterMap_eq_map]
  refine List.filterMap_congr fun x hx => ?_
  exact hs.shown?_eq_some.2 ⟨v x, h x hx, rfl, rfl⟩

/-! ## Variables -/

/-- Where links say what they said, a change of the variables is seen in the variables alone. -/
theorem content_variables {vs : List ProcessVariable} (out new : List ProcessVariable)
    (hlinks : ∀ l ∈ s.links, (Table.lookup ProcessVariable.id l.variableId vs).map Cache.variableKey =
      (s.linked? l).map Cache.variableKey)
    (h : (vs ++ out).Perm (s.processVariables ++ new)) :
    { s with processVariables := vs }.content + out.map (fun v => Entry.processVariable v.anonymous) =
      s.content + new.map fun v => Entry.processVariable v.anonymous := by
  have hshown : s.links.filterMap { s with processVariables := vs }.shown? = s.links.filterMap s.shown? :=
    shown_congr hlinks
  exact content_exchange 2 rfl (by simp [parts, hshown]) h

theorem Sound.content_withVariable (hs : s.Sound) (v : ProcessVariable) :
    (s.withVariable v).content = s.content + [Entry.processVariable v.anonymous] := by
  have hlinks : ∀ l ∈ s.links, (Table.lookup ProcessVariable.id l.variableId (s.processVariables ++ [v])).map
      Cache.variableKey = (s.linked? l).map Cache.variableKey := by
    intro l hl
    obtain ⟨w, hw⟩ := Table.has_iff.1 (hs.linkVariables l hl)
    have hfound : s.linked? l = some w := hs.linked?_eq_some.2 hw
    rw [hfound, Table.lookup_concat hfound]
  exact (add_zero _).symm.trans (content_variables [] [v] hlinks (by rw [List.append_nil]))

theorem Sound.content_replaceVariable (hs : s.Sound) {v v' : ProcessVariable} (hv : v ∈ s.processVariables)
    (hid : v'.id = v.id) (hkey : Cache.variableKey v' = Cache.variableKey v) :
    (s.replaceVariable v').content + [Entry.processVariable v.anonymous] =
      s.content + [Entry.processVariable v'.anonymous] := by
  refine content_variables (s := s) [v] [v'] (fun l hl => ?_) (Table.replace_perm hs.variableIds hv hid)
  have hids (w : ProcessVariable) : (if w.id = v'.id then v' else w).id = w.id := by
    split
    · rename_i h
      exact h.symm
    · rfl
  rw [Table.lookup_map hids, Option.map_map]
  refine Option.map_congr fun w hw => ?_
  have hfound := hs.linked?_eq_some.1 hw
  by_cases h : w.id = v'.id
  · rw [Function.comp, if_pos h, hkey, List.inj_on_of_nodup_map hs.variableIds hfound.1 hv (h.trans hid)]
  · rw [Function.comp, if_neg h]

/-- What the links to a variable say. -/
def shownAs (s : Store) (v : ProcessVariable) : List Entry :=
  (s.links.filter (·.variableId = v.id)).map fun l => .shown l.taskId v.instanceId v.name

theorem Sound.mem_shownAs (hs : s.Sound) {v : ProcessVariable} (hv : v ∈ s.processVariables) {x : Entry} :
    x ∈ s.shownAs v ↔ ∃ taskId, x = .shown taskId v.instanceId v.name ∧ s.Holds x := by
  rw [shownAs, List.mem_map]
  constructor
  · rintro ⟨⟨taskId, id⟩, hl, rfl⟩
    obtain ⟨hl, hid⟩ := List.mem_filter.1 hl
    obtain rfl : id = v.id := of_decide_eq_true hid
    exact ⟨taskId, rfl, (hs.link_iff hv).2 hl⟩
  · rintro ⟨taskId, rfl, hx⟩
    exact ⟨⟨taskId, v.id⟩, List.mem_filter.2 ⟨(hs.link_iff hv).1 hx, by simp⟩, rfl⟩

theorem Sound.nodup_shownAs (hs : s.Sound) (v : ProcessVariable) : (s.shownAs v).Nodup := by
  refine (hs.links.filter _).map_on fun l hl l' hl' heq => ?_
  simp only [List.mem_filter, decide_eq_true_eq] at hl hl'
  cases l
  cases l'
  simp_all

theorem Sound.content_withoutVariable (hs : s.Sound) {v : ProcessVariable} (hv : v ∈ s.processVariables) :
    (s.withoutVariable v.id).content + (Entry.processVariable v.anonymous :: s.shownAs v) = s.content := by
  -- First the links go, then the variable, to which no link is left.
  have hlinks : (s.unlinkVariable v.id).content + s.shownAs v = s.content := by
    have hshown : (s.links.filter (·.variableId = v.id)).filterMap s.shown? = s.shownAs v := by
      rw [shownAs, ← List.filterMap_eq_map]
      refine List.filterMap_congr fun l hl => ?_
      obtain ⟨-, hid⟩ := List.mem_filter.1 hl
      exact hs.shown?_eq_some.2 ⟨v, hv, (of_decide_eq_true hid).symm, rfl⟩
    have hperm := (Table.remove_perm (fun l : VariableLink => l.variableId = v.id) s.links).filterMap s.shown?
    rw [List.filterMap_append, hshown] at hperm
    have hswap : (s.unlinkVariable v.id).content + s.shownAs v = s.content + ([] : List Entry) :=
      content_swap 4 rfl rfl (by rwa [List.append_nil])
    exact hswap.trans (add_zero _)
  have hleft : ∀ l ∈ (s.unlinkVariable v.id).links,
      (Table.lookup ProcessVariable.id l.variableId (Table.remove (·.id = v.id) s.processVariables)).map
        Cache.variableKey = ((s.unlinkVariable v.id).linked? l).map Cache.variableKey := by
    intro l hl
    obtain ⟨-, hne⟩ := Table.mem_remove.1 hl
    rw [Table.lookup_remove_key hs.variableIds, if_neg (by simpa using hne)]
    rfl
  have hvariable : (s.withoutVariable v.id).content + [Entry.processVariable v.anonymous] =
      (s.unlinkVariable v.id).content :=
    (content_variables (s := s.unlinkVariable v.id) [v] [] hleft
      ((Table.remove_key_perm hs.variableIds hv).trans (by rw [List.append_nil]; rfl))).trans (add_zero _)
  calc (s.withoutVariable v.id).content + (Entry.processVariable v.anonymous :: s.shownAs v)
    _ = (s.withoutVariable v.id).content + [Entry.processVariable v.anonymous] + s.shownAs v := by
      rw [add_assoc]
      rfl
    _ = s.content := by rw [hvariable, hlinks]

/-! ## What is shown -/

/-- A new task says what it shows. -/
theorem Sound.content_withTask (hs : s.Sound) {t : UserTask} (ht : s.task? t.id = none) :
    (s.withTask t).content = s.content + (Entry.task t ::
      (s.variablesAround t).map fun v => Entry.shown t.id v.instanceId v.name : List Entry) := by
  have hnew : (s.saveTask t).tasks = s.tasks ++ [t] := Table.upsert_new ht
  have hexchange : (s.saveTask t).content + ([] : List UserTask).map Entry.task = s.content + [t].map Entry.task :=
    content_exchange 1 rfl rfl (.of_eq ((List.append_nil _).trans hnew))
  have htask : (s.saveTask t).content = s.content + [Entry.task t] := (add_zero _).symm.trans hexchange
  have hmem : ∀ v ∈ s.variablesAround t, v ∈ s.processVariables := by
    intro v hv
    unfold variablesAround at hv
    split at hv
    · cases hv
    · exact (mem_listVariables.1 hv).1
  have hlinks : ((s.variablesAround t).map fun v => VariableLink.mk t.id v.id).filterMap (s.saveTask t).shown? =
      _ := hs.filterMap_shown (fun _ => t.id) id hmem
  rw [withTask, content_withLinks, hlinks, htask, add_assoc]
  rfl

theorem Sound.content_withShownVariable (hs : s.Sound) {v : ProcessVariable} (hs' : (s.withVariable v).Sound) :
    (s.withShownVariable v).content = s.content + (Entry.processVariable v.anonymous ::
      (s.openTasksOf v.instanceId).map fun t => Entry.shown t.id v.instanceId v.name : List Entry) := by
  have hthere : v ∈ (s.withVariable v).processVariables := List.mem_append_right _ List.mem_cons_self
  have hlinks : ((s.openTasksOf v.instanceId).map fun t => VariableLink.mk t.id v.id).filterMap
      (s.withVariable v).shown? = _ := hs'.filterMap_shown UserTask.id (fun _ => v) fun _ _ => hthere
  rw [withShownVariable, content_withLinks, hlinks, hs.content_withVariable, add_assoc]
  rfl

/-! ## An instance with all that belongs to it -/

/-- Does the row belong to the instance, or to a task of it? -/
def owns (s : Store) (instanceId : String) : Entry → Bool
  | .processInstance r => r.id = instanceId
  | .task t => t.instanceId = some instanceId
  | .processVariable v => v.instanceId = instanceId
  | .taskVariable v => s.ownsTask instanceId v.taskId
  | .shown taskId owner _ => s.ownsTask instanceId taskId ∨ owner = instanceId
  | .candidate c => c.role.ofTask ∧ s.ownsTask instanceId c.owner
  | .activity a => a.instanceId = instanceId
  | .flow f => f.instanceId = instanceId
  | .integration c => c.instanceId = instanceId
  | .definition _ | .model _ | .application _ => false

/-- A link goes with its task or its variable, and otherwise says what it said. -/
theorem Sound.shown?_withoutInstance (hs : s.Sound) (instanceId : String) {l : VariableLink} (hl : l ∈ s.links) :
    (if s.ownsTask instanceId l.taskId ∨ s.ownsVariable instanceId l.variableId then none
      else (s.withoutInstance instanceId).shown? l) =
      (s.shown? l).filter fun x => !s.owns instanceId x := by
  obtain ⟨v, hv, hid⟩ := Table.has_iff.1 (hs.linkVariables l hl)
  have hfound : s.linked? l = some v := hs.linked?_eq_some.2 ⟨hv, hid⟩
  have howns := hs.ownsVariable_of_mem hv instanceId
  have hleft : (s.withoutInstance instanceId).linked? l =
      if decide (v.instanceId = instanceId) then none else some v :=
    Table.lookup_remove_found hs.variableIds hfound (·.instanceId = instanceId)
  rw [shown?, shown?, hfound, hleft, ← hid]
  by_cases ht : s.ownsTask instanceId l.taskId = true
  · simp [ht, owns, Option.filter]
  · by_cases hi : v.instanceId = instanceId
    · simp [howns.2 hi, owns, hi, Option.filter]
    · simp [ht, hi, mt howns.1 hi, owns, Option.filter]

theorem Sound.content_withoutInstance (hs : s.Sound) (instanceId : String) :
    (s.withoutInstance instanceId).content = s.content.filter fun x => !s.owns instanceId x := by
  have hlinks : (s.withoutInstance instanceId).links.filterMap (s.withoutInstance instanceId).shown? =
      (s.links.filterMap s.shown?).filter fun x => !s.owns instanceId x := by
    have hkept : (s.withoutInstance instanceId).links = s.links.filter fun l =>
        !decide (s.ownsTask instanceId l.taskId ∨ s.ownsVariable instanceId l.variableId) := rfl
    rw [List.filter_filterMap, hkept, List.filterMap_filter]
    refine List.filterMap_congr fun l hl => ?_
    rw [← hs.shown?_withoutInstance instanceId hl]
    simp only [Bool.not_eq_true', decide_eq_false_iff_not, ite_not]
  simp only [content, parts, hlinks, Multiset.filter_coe]
  simp [withoutInstance, Table.remove, List.filter_map, Function.comp_def, owns, ProcessVariable.anonymous,
    TaskVariable.anonymous, SequenceFlow.anonymous]

end FlowView.Store
