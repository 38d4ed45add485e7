import NemoClaw.Inference.KimiSplit

/- What the rewriting of a message and of an event keeps.

The blocks of a message are rewritten by the plan that splits every combined call; those of
an event also by the one call that the event completes. What an event delivers of a block
may stand elsewhere than the block did.

What is proved:
  1. `keepsBlocks_rewritten`, `rewritten_rewritten` — the rows of a rewritten message, and
     that rewriting it again changes nothing.
  2. `pointsAtBlock_iff` — when the index of an event still names its block.
  3. `messages_consistent_iff` — when the ids stay distinct and the index names the block.
-/
namespace NemoClaw.KimiCompat

open Js Json List

/-- The blocks after rewriting. -/
def rewritten (content : List Json) : List Json :=
  (rewriteSafeCombinedExecToolCallsInContent content).getD content

/-- Every combined call is split. -/
def contentPlan (content : List Json) : Plan :=
  content.map fun block => ⟨block, getSafeCombinedExecToolCallFromBlock block⟩

/-- What stands for a block: a call for every command of a combined one, in order. -/
def StandsFor (block : Json) (row : List Json) : Prop :=
  match getSafeCombinedExecToolCallFromBlock block with
  | some commands => row.map getSafeExecToolCallCommand = (uniq commands).map some
  | none => row = [block]

/-- Every block is kept or split; if all are harmless calls, the first of every command is. -/
def KeepsBlocks (content result : List Json) : Prop :=
  ∃ rows, Forall₂ StandsFor content rows ∧ result =
    if content.any isCombined && rows.flatten.all isSafeExecToolCall then
      (FirstOfKind.newRows safeCommand [] rows).flatten
    else rows.flatten

section Content

variable {content : List Json}

lemma safe_of_combined {block : Json} {commands : List String}
    (h : getSafeCombinedExecToolCallFromBlock block = some commands) :
    ∀ c ∈ commands, c ∈ safeSplitExecCommands := by
  obtain ⟨command, -, hsplit⟩ := Option.bind_eq_some_iff.mp h
  exact splitSafeExecCommand_safe hsplit

lemma contentPlan_safe : ∀ e ∈ contentPlan content, e.Safe := by
  intro e he
  obtain ⟨block, -, rfl⟩ := mem_map.mp he
  exact fun commands => safe_of_combined

lemma any_contentPlan : (contentPlan content).any (·.split.isSome) = content.any isCombined := by
  rw [contentPlan, any_map]; rfl

lemma block_contentPlan : (contentPlan content).map Planned.block = content := by
  rw [contentPlan, map_map]; exact map_id content

lemma rows_contentPlan : (contentPlan content).rows = content.map expandBlock := by
  rw [contentPlan, Plan.rows, map_map]
  refine map_congr_left fun block _ => ?_
  rw [expandBlock, Function.comp_apply]
  cases getSafeCombinedExecToolCallFromBlock block <;> rfl

lemma expandBlock_whole (h : content.any isCombined = false) :
    (content.map expandBlock).flatten = content := by
  have hwhole : content.map expandBlock = content.map ([·]) := by
    refine map_congr_left fun block hblock => ?_
    have hnone := any_eq_false.mp h block hblock
    rw [isCombined, Option.not_isSome_iff_eq_none] at hnone
    rw [expandBlock, hnone]
  rw [hwhole]; exact flatMap_singleton' content

lemma flatten_contentPlan : (contentPlan content).delivered.flatten = rewritten content := by
  rw [flatten_delivered contentPlan_safe, any_contentPlan, rows_contentPlan, rewritten,
    rewriteSafeCombinedExecToolCallsInContent]
  split
  · rw [Option.getD_some, flatMap_def]
  · next h =>
    rw [Option.getD_none, expandBlock_whole (Bool.eq_false_iff.mpr h)]

lemma standsFor_expandBlock (block : Json) : StandsFor block (expandBlock block) := by
  unfold StandsFor
  cases h : getSafeCombinedExecToolCallFromBlock block with
  | none => simp only [expandBlock, h]
  | some commands =>
  have hrow : expandBlock block = (Planned.mk block (some commands)).row := by
    rw [expandBlock, h]; rfl
  rw [hrow, row_split (safe_of_combined h), map_map]
  exact map_congr_left fun c _ => getSafeExecToolCallCommand_part _ _ c

theorem keepsBlocks_rewritten : KeepsBlocks content (rewritten content) := by
  refine ⟨content.map expandBlock, ?_, ?_⟩
  · exact forall₂_map_right_iff.mpr
      (forall₂_same.mpr fun block _ => standsFor_expandBlock block)
  · rw [← flatten_contentPlan, Plan.delivered, Plan.dedupes, any_contentPlan,
      ← all_rows contentPlan_safe, rows_contentPlan]
    split <;> rfl

lemma not_combined_rewritten : (rewritten content).any isCombined = false := by
  rw [← flatten_contentPlan, any_eq_false]
  intro block hblock
  obtain ⟨row, hrow, hmem⟩ := mem_flatten.mp hblock
  obtain ⟨i, hi⟩ := mem_iff_getElem?.mp hrow
  rw [getElem?_delivered contentPlan_safe] at hi
  obtain ⟨e, he, rfl⟩ := Option.map_eq_some_iff.mp hi
  obtain ⟨original, -, rfl⟩ := mem_map.mp (mem_of_getElem? he)
  rw [isCombined, Option.not_isSome_iff_eq_none]
  cases hsplit : getSafeCombinedExecToolCallFromBlock original with
  | none =>
    simp only [hsplit] at hmem
    rw [mem_singleton.mp (mem_of_mem_filter hmem)]; exact hsplit
  | some commands =>
    simp only [hsplit] at hmem; obtain ⟨c, hc, rfl⟩ := mem_map.mp hmem
    exact not_combined_of_safe
      (safeCommand_part (safe_of_combined hsplit c (mem_freshCommands.mp hc).1))

theorem rewritten_rewritten : rewritten (rewritten content) = rewritten content := by
  have hnone : rewriteSafeCombinedExecToolCallsInContent (rewritten content) = none := by
    rw [rewriteSafeCombinedExecToolCallsInContent, not_combined_rewritten]; rfl
  rw [rewritten, hnone, Option.getD_none]

end Content

def partialBlocks (event : Json) : Option (List Json) := (event.get? "partial").bind contentBlocks

/-- Every combined call of the partial message is split; if there is none, the call that the
event completes. -/
def eventPlan (event : Json) (content : List Json) : Plan :=
  match if content.any isCombined then none else getSafeCombinedExecToolCallFromEventDelta event with
  | none => contentPlan content
  | some split =>
    contentPlan (content.take split.contentIndex) ++
      ⟨split.toolCall, some split.commands⟩ :: contentPlan (content.drop (split.contentIndex + 1))

section Lookups

variable {fields : List (String × Json)} {key : String}

lemma lookup_modifyOwn (k : String) (f : Json → Json) :
    (modifyOwn k f fields).lookup key =
      if key = k then (fields.lookup key).map f else fields.lookup key := by
  induction fields with
  | nil => simp [modifyOwn]
  | cons kv fields ih =>
    obtain ⟨k', v⟩ := kv
    rw [modifyOwn, map_cons, ← modifyOwn]
    by_cases hkey : key = k'
    · subst hkey
      by_cases hk : key = k <;> simp [hk]
    have hbeq : (key == k') = false := beq_eq_false_iff_ne.mpr hkey
    have hhead : ∀ v', ((if k' = k then (k, v') else (k', v)) :: modifyOwn k f fields).lookup key =
        (modifyOwn k f fields).lookup key := by
      intro v'
      split
      · next hk => rw [lookup_cons, ← hk, hbeq]
      · rw [lookup_cons, hbeq]
    rw [hhead, ih, lookup_cons, hbeq]

lemma lookup_modifyOwn_ne {k : String} (f : Json → Json) (h : key ≠ k) :
    (modifyOwn k f fields).lookup key = fields.lookup key := by
  rw [lookup_modifyOwn, if_neg h]

lemma lookup_plainFields :
    (plainFields fields).lookup key =
      if key ∈ reasoningFieldNames then none else fields.lookup key := by
  rw [plainFields, lookup_filter_key fun k => decide (k ∉ reasoningFieldNames)]
  by_cases h : key ∈ reasoningFieldNames <;> simp [h]

end Lookups

section Strip

variable {numberText : ℚ → String}

/-- No reasoning is told by a message: neither by a property of it nor by a block. -/
def WithoutReasoning (numberText : ℚ → String) (message : Json) : Prop :=
  (∀ key ∈ reasoningFieldNames, message.get? key = none) ∧
    ∀ content, contentBlocks message = some content → ∀ block ∈ content,
      isReasoningContentBlock numberText block = false ∧
        ∀ key ∈ reasoningFieldNames, block.get? key = none

lemma get?_stripReasoningFields (value : Json) (key : String) :
    (stripReasoningFields value).get? key =
      if key ∈ reasoningFieldNames then none else value.get? key := by
  cases value with
  | obj fields => exact lookup_plainFields
  | _ => exact (ite_self none).symm

lemma hasReasoningType_congr {types : List String} {value value' : Json}
    (hobject : value.isObject = value'.isObject) (htype : value.get? "type" = value'.get? "type") :
    hasReasoningType numberText types value = hasReasoningType numberText types value' := by
  simp only [hasReasoningType, hobject, htype]

lemma isReasoningContentBlock_strip (block : Json) :
    isReasoningContentBlock numberText (stripReasoningFields block) =
      isReasoningContentBlock numberText block := by
  refine hasReasoningType_congr ?_ ?_
  · cases block <;> rfl
  · rw [get?_stripReasoningFields, if_neg (by decide)]

lemma contentBlocks_strip (message : Json) :
    contentBlocks (stripReasoningFromMessage numberText message) =
      (contentBlocks message).map (stripReasoningContentBlocks numberText) := by
  cases message with
  | obj fields =>
    have hplain : (plainFields fields).lookup "content" = fields.lookup "content" := by
      rw [lookup_plainFields, if_neg (by decide)]
    by_cases harray : ∃ blocks, fields.lookup "content" = some (.arr blocks)
    · obtain ⟨blocks, hcontent⟩ := harray
      simp only [stripReasoningFromMessage, contentBlocks, hplain, hcontent, get?_obj,
        lookup_setOwn, if_pos, Option.map_some]
    · have hsame : stripReasoningFromMessage numberText (.obj fields) =
          .obj (plainFields fields) := by
        simp only [stripReasoningFromMessage, hplain]
        split
        · next blocks hcontent => exact absurd ⟨blocks, hcontent⟩ harray
        · rfl
      have hnone : contentBlocks (.obj fields) = none := by
        unfold contentBlocks
        split
        · next blocks hcontent => exact absurd ⟨blocks, hcontent⟩ harray
        · rfl
      rw [hsame, hnone, contentBlocks, get?_obj, hplain]; exact hnone
  | _ => rfl

lemma withoutReasoning_strip (message : Json) :
    WithoutReasoning numberText (stripReasoningFromMessage numberText message) := by
  constructor
  · intro key hkey
    cases message with
    | obj fields =>
      have hplain : (plainFields fields).lookup key = none := by
        rw [lookup_plainFields, if_pos hkey]
      have hne : key ≠ "content" := by
        rintro rfl; exact absurd hkey (by decide)
      simp only [stripReasoningFromMessage]
      split
      · rw [get?_obj, lookup_setOwn, if_neg hne, hplain]
      · exact hplain
    | _ => rfl
  · intro content hcontent block hblock
    rw [contentBlocks_strip] at hcontent
    obtain ⟨blocks, -, rfl⟩ := Option.map_eq_some_iff.mp hcontent
    obtain ⟨original, horiginal, rfl⟩ := mem_map.mp hblock
    constructor
    · rw [isReasoningContentBlock_strip]
      exact Bool.not_eq_true' .. ▸ (mem_filter.mp horiginal).2
    · intro key hkey
      rw [get?_stripReasoningFields, if_pos hkey]

end Strip

section Rewrite

variable {event message : Json} {content : List Json} {split : Split}

lemma contentBlocks_withContent {fields : List (String × Json)} (content : List Json) :
    contentBlocks (withContent content (.obj fields)) = some content := by
  simp only [withContent]
  split
  · simp only [contentBlocks, get?_obj, lookup_setOwn, String.reduceEq, if_false, if_true]
  · simp only [contentBlocks, get?_obj, lookup_setOwn, if_true]

lemma obj_of_contentBlocks (h : contentBlocks message = some content) :
    ∃ fields, message = .obj fields := by
  cases message with
  | obj fields => exact ⟨fields, rfl⟩
  | _ => cases h

lemma eventDelta_inv (h : getSafeCombinedExecToolCallFromEventDelta event = some split) :
    (∃ content, partialBlocks event = some content ∧ split.contentIndex < content.length) ∧
      ∀ c ∈ split.commands, c ∈ safeSplitExecCommands := by
  simp only [getSafeCombinedExecToolCallFromEventDelta, Option.bind_eq_bind, Option.bind_eq_some_iff]
    at h
  obtain ⟨-, -, content, hcontent, toolCall, htoolCall, -, -, -, -, command, -, commands,
    hcommands, hsplit⟩ := h
  cases hsplit
  refine ⟨⟨content, Option.bind_eq_some_iff.mpr hcontent, ?_⟩, splitSafeExecCommand_safe hcommands⟩
  unfold blockAt at htoolCall
  split at htoolCall
  · exact (List.getElem?_eq_some_iff.mp htoolCall).1
  · cases htoolCall

lemma eventPlan_safe : ∀ e ∈ eventPlan event content, e.Safe := by
  unfold eventPlan
  split
  · exact contentPlan_safe
  next split hdelta =>
  intro e he
  rcases mem_append.mp he with he | he
  · exact contentPlan_safe e he
  rcases mem_cons.mp he with rfl | he
  · split at hdelta
    · cases hdelta
    · rintro commands heq
      cases heq; exact (eventDelta_inv hdelta).2
  · exact contentPlan_safe e he

lemma contentBlocks_rewriteMessage (h : partialBlocks event = some content)
    (hmessage : contentBlocks message = some content) :
    contentBlocks (rewriteMessage (getSafeCombinedExecToolCallFromEventDelta event) message) =
      some (eventPlan event content).delivered.flatten := by
  obtain ⟨fields, rfl⟩ := obj_of_contentBlocks hmessage
  have happly : applySafeExecSplitToMessage (.obj fields) =
      (rewriteSafeCombinedExecToolCallsInContent content).map fun content =>
        withContent content (.obj fields) := by
    rw [applySafeExecSplitToMessage, hmessage, Option.bind_some]
  by_cases hany : content.any isCombined
  · have hrewrite : rewriteSafeCombinedExecToolCallsInContent content = some (rewritten content) := by
      rw [rewritten, rewriteSafeCombinedExecToolCallsInContent, if_pos hany, Option.getD_some]
    rw [rewriteMessage, happly, hrewrite, Option.map_some]
    simp only
    rw [contentBlocks_withContent, eventPlan, if_pos hany, flatten_contentPlan]
  · have hrewrite : rewriteSafeCombinedExecToolCallsInContent content = none := by
      rw [rewriteSafeCombinedExecToolCallsInContent, if_neg hany]
    have hnone := Bool.eq_false_iff.mpr hany
    rw [rewriteMessage, happly, hrewrite, Option.map_none]
    simp only
    rw [eventPlan, if_neg hany]
    cases hdelta : getSafeCombinedExecToolCallFromEventDelta event with
    | none =>
      simp only [Option.elim_none]
      rw [hmessage, flatten_contentPlan, rewritten, hrewrite, Option.getD_none]
    | some split =>
      obtain ⟨⟨blocks, hblocks, hindex⟩, hsafe⟩ := eventDelta_inv hdelta
      obtain rfl : content = blocks := Option.some.inj (h.symm.trans hblocks)
      have htake : (content.take split.contentIndex).any isCombined = false :=
        any_eq_false.mpr fun block hblock =>
          any_eq_false.mp hnone block (mem_of_mem_take hblock)
      have hdrop : (content.drop (split.contentIndex + 1)).any isCombined = false :=
        any_eq_false.mpr fun block hblock =>
          any_eq_false.mp hnone block (mem_of_mem_drop hblock)
      have hplan := @eventPlan_safe event content
      rw [eventPlan, if_neg hany, hdelta] at hplan
      simp only [Option.elim_some] at hplan ⊢
      rw [applySafeExecSplitAtContentIndex, hmessage]
      simp only
      rw [if_neg (Nat.not_le.mpr hindex), contentBlocks_withContent, flatten_delivered hplan,
        if_pos (by simp)]
      have hrows : ∀ xs ys : Plan, (Plan.rows (xs ++ ys)) = Plan.rows xs ++ Plan.rows ys :=
        fun xs ys => map_append
      rw [hrows, flatten_append, rows_contentPlan, expandBlock_whole htake]
      show _ = some (dedupeAllSafeDiagnosticExecToolCalls (_ ++ (_ ++ (Plan.rows _).flatten)))
      rw [rows_contentPlan, expandBlock_whole hdrop, append_assoc]; rfl

end Rewrite

/-! ## What an event delivers -/

/-- What is delivered of every block of the partial message. -/
def deliveredRows (numberText : ℚ → String) (event : Json) (content : List Json) :
    List (List Json) :=
  (eventPlan event content).delivered.map (stripReasoningContentBlocks numberText)

/-- None for a block of reasoning or a call that is repeated, and for a call that is split the
number of its commands. -/
def blockCount (numberText : ℚ → String) (plan : Plan) (i : ℕ) : ℕ :=
  match plan[i]? with
  | none => 0
  | some ⟨_, some commands⟩ => (plan.freshCommands i commands).length
  | some ⟨block, none⟩ =>
    if plan.isKept i block && !isReasoningContentBlock numberText block then 1 else 0

/-- The delivered partial message has the rows of the blocks, and the index of the event stands in
the row of its block, if anything is left of that. -/
def PointsAtBlock (numberText : ℚ → String) (event : Json) : Prop :=
  ∀ event' content, deliveredEvent numberText event = some event' →
    partialBlocks event = some content →
      ∃ message, event'.get? "partial" = some message ∧
        contentBlocks message = some (deliveredRows numberText event content).flatten ∧
        WithoutReasoning numberText message ∧
        ∀ k : ℕ, event.get? "contentIndex" = some (.num k) →
          (deliveredRows numberText event content).getD k [] ≠ [] →
            ∃ k' : ℕ, event'.get? "contentIndex" = some (.num k') ∧
              FirstOfKind.StandsIn (deliveredRows numberText event content) k' k

/-- The blocks that stand for those before the block of the event are more than were there, or too
few. -/
def Shifted (numberText : ℚ → String) (event : Json) : Prop :=
  isReasoningEvent numberText event = false ∧ ∃ content, ∃ k : ℕ,
    partialBlocks event = some content ∧ event.get? "contentIndex" = some (.num k) ∧
      let count := blockCount numberText (eventPlan event content)
      count k ≠ 0 ∧ (k < ∑ j ∈ Finset.range k, count j ∨ ∑ j ∈ Finset.range (k + 1), count j ≤ k)

section Delivered

variable {numberText : ℚ → String} {event event' : Json} {fields : List (String × Json)}
  {content : List Json}

lemma rewrite_obj (fields : List (String × Json)) :
    ∃ fields', rewriteSafeCombinedExecToolCallInEvent (.obj fields) = .obj fields' ∧
      ∀ key ∉ ["message", "delta", "toolCall"], fields'.lookup key =
        if key = "partial" then
          (fields.lookup key).map
            (rewriteMessage (getSafeCombinedExecToolCallFromEventDelta (.obj fields)))
        else fields.lookup key := by
  simp only [mem_cons, not_mem_nil, or_false, not_or]
  have hmessages : ∀ (f : Json → Json) (key : String), key ≠ "message" →
      (modifyOwn "message" f (modifyOwn "partial" f fields)).lookup key =
        if key = "partial" then (fields.lookup key).map f else fields.lookup key := by
    intro f key hkey
    rw [lookup_modifyOwn_ne f hkey, lookup_modifyOwn]
  cases hdelta : getSafeCombinedExecToolCallFromEventDelta (.obj fields) with
  | none =>
    simp only [rewriteSafeCombinedExecToolCallInEvent, hdelta]
    exact ⟨_, rfl, fun key hkey => hmessages _ key hkey.1⟩
  | some split =>
    simp only [rewriteSafeCombinedExecToolCallInEvent, hdelta]
    refine ⟨_, rfl, fun key ⟨hmessage, hdelta, htoolCall⟩ => ?_⟩
    simp only [rewriteDelta]
    split
    · rw [lookup_setOwn, if_neg htoolCall, lookup_setOwn, if_neg hdelta, hmessages _ key hmessage]
    · rw [lookup_setOwn, if_neg hdelta, hmessages _ key hmessage]

lemma filter_obj (fields : List (String × Json)) :
    ∃ fields', filterReasoningFromEvent numberText (.obj fields) =
        (if isReasoningEvent numberText (.obj fields) then none else some (.obj fields')) ∧
      ∀ key ∉ ["message", "delta", "choices"], key ∉ reasoningFieldNames → fields'.lookup key =
        if key = "partial" then (fields.lookup key).map (stripReasoningFromMessage numberText)
        else fields.lookup key := by
  refine ⟨_, by rw [filterReasoningFromEvent], fun key hkey hplain => ?_⟩
  simp only [mem_cons, not_mem_nil, or_false, not_or] at hkey
  obtain ⟨hmessage, hdelta, hchoices⟩ := hkey
  rw [lookup_modifyOwn_ne _ hchoices, lookup_modifyOwn_ne _ hdelta, lookup_modifyOwn,
    lookup_modifyOwn_ne _ hmessage, lookup_plainFields, if_neg hplain]

lemma stripReasoningContentBlocks_flatten (rows : List (List Json)) :
    stripReasoningContentBlocks numberText rows.flatten =
      (rows.map (stripReasoningContentBlocks numberText)).flatten := by
  induction rows with
  | nil => rfl
  | cons row rows ih =>
    rw [flatten_cons, map_cons, flatten_cons, ← ih, stripReasoningContentBlocks,
      filter_append, map_append]
    rfl

lemma deliveredEvent_spec (h : partialBlocks event = some content) :
    ∃ event', deliveredEvent numberText event =
        (if isReasoningEvent numberText event then none else some event') ∧
      event'.get? "contentIndex" = event.get? "contentIndex" ∧
      ∃ message, event'.get? "partial" = some message ∧
        contentBlocks message = some (deliveredRows numberText event content).flatten ∧
        WithoutReasoning numberText message := by
  obtain ⟨message, hmessage, hcontent⟩ := Option.bind_eq_some_iff.mp h
  obtain ⟨fields, rfl⟩ : ∃ fields, event = .obj fields := by
    cases event with
    | obj fields => exact ⟨fields, rfl⟩
    | _ => cases hmessage
  obtain ⟨written, hwritten, hlookup⟩ := rewrite_obj fields
  obtain ⟨final, hfinal, hlookup'⟩ := @filter_obj numberText written
  have htype : isReasoningEvent numberText (.obj written) =
      isReasoningEvent numberText (.obj fields) := by
    refine hasReasoningType_congr rfl ?_
    rw [get?_obj, hlookup "type" (by decide), if_neg (by decide), get?_obj]
  refine ⟨.obj final, ?_, ?_, stripReasoningFromMessage numberText
    (rewriteMessage (getSafeCombinedExecToolCallFromEventDelta (.obj fields)) message), ?_, ?_,
    withoutReasoning_strip _⟩
  · rw [deliveredEvent, hwritten, hfinal, htype]
  · rw [get?_obj, hlookup' "contentIndex" (by decide) (by decide), if_neg (by decide),
      hlookup "contentIndex" (by decide), if_neg (by decide), get?_obj]
  · rw [get?_obj, hlookup' "partial" (by decide) (by decide), if_pos rfl,
      hlookup "partial" (by decide), if_pos rfl, ← get?_obj, hmessage]
    rfl
  · rw [contentBlocks_strip, contentBlocks_rewriteMessage h hcontent, Option.map_some,
      stripReasoningContentBlocks_flatten]
    rfl

lemma not_reasoning_part (toolCall : Json) (index : ℕ) (command : String) :
    isReasoningContentBlock numberText (splitToolCall toolCall index command) = false := by
  have htype : normalize numberText ((splitToolCall toolCall index command).get? "type") =
      "toolcall" := by
    show jsToLowerCase (jsTrim "toolCall") = "toolcall"; decide +kernel
  have hother : (decide ("toolcall" ∈ reasoningContentTypes) || includes "toolcall" "reasoning" ||
      includes "toolcall" "thinking") = false := by decide +kernel
  rw [isReasoningContentBlock, hasReasoningType, htype]
  exact Bool.and_eq_false_imp.mpr fun _ => hother

lemma length_deliveredRows (i : ℕ) :
    ((deliveredRows numberText event content).getD i []).length =
      blockCount numberText (eventPlan event content) i := by
  rw [getD_eq_getElem?_getD, deliveredRows, List.getElem?_map,
    getElem?_delivered eventPlan_safe, blockCount]
  cases (eventPlan event content)[i]? with
  | none => rfl
  | some e =>
  obtain ⟨block, split⟩ := e
  simp only [Option.map_some, Option.getD_some, stripReasoningContentBlocks, length_map,
    Plan.deliveredRow]
  cases split with
  | none =>
    simp only
    cases hkept : (eventPlan event content).isKept i block <;>
      cases hreasoning : isReasoningContentBlock numberText block <;> simp [hkept, hreasoning]
  | some commands =>
    have hall : ∀ part ∈ ((eventPlan event content).freshCommands i commands).map
        fun c => splitToolCall block (commands.idxOf c) c,
        (!isReasoningContentBlock numberText part) := by
      intro part hpart
      obtain ⟨c, -, rfl⟩ := mem_map.mp hpart
      rw [not_reasoning_part, Bool.not_false]
    simp only
    rw [filter_eq_self.mpr hall, length_map]

theorem pointsAtBlock_iff : PointsAtBlock numberText event ↔ ¬ Shifted numberText event := by
  have hstands : ∀ content (k : ℕ),
      FirstOfKind.StandsIn (deliveredRows numberText event content) k k ↔
        ¬ (k < ∑ j ∈ Finset.range k, blockCount numberText (eventPlan event content) j ∨
          ∑ j ∈ Finset.range (k + 1), blockCount numberText (eventPlan event content) j ≤ k) := by
    intro content k
    rw [FirstOfKind.standsIn_iff]; simp only [length_deliveredRows]; omega
  have hkept : ∀ content (k : ℕ), (deliveredRows numberText event content).getD k [] ≠ [] ↔
      blockCount numberText (eventPlan event content) k ≠ 0 := by
    intro content k
    rw [← length_deliveredRows, Ne, Ne, length_eq_zero_iff]
  constructor
  · rintro hpoints ⟨hevent, content, k, hcontent, hindex, hcount, hshift⟩
    obtain ⟨event', hdelivered, hindex', -⟩ := @deliveredEvent_spec numberText event content hcontent
    rw [hevent] at hdelivered
    obtain ⟨-, -, -, -, hstand⟩ := hpoints event' content hdelivered hcontent
    obtain ⟨k', hk', hstand⟩ := hstand k hindex ((hkept content k).mpr hcount)
    rw [hindex', hindex] at hk'
    obtain rfl : k = k' := by
      injection hk' with hk'
      injection hk' with hk'
      exact_mod_cast hk'
    exact (hstands content k).mp hstand hshift
  · intro hshift event' content hdelivered hcontent
    obtain ⟨final, hfinal, hindex', message, hmessage, hblocks, hreasoning⟩ :=
      @deliveredEvent_spec numberText event content hcontent
    rw [hdelivered] at hfinal
    split at hfinal
    · cases hfinal
    next hevent =>
    cases hfinal
    refine ⟨message, hmessage, hblocks, hreasoning, fun k hk hrow => ⟨k, hindex'.trans hk, ?_⟩⟩
    rw [hstands]
    exact fun hmoved => hshift ⟨Bool.eq_false_iff.mpr hevent, content, k, hcontent, hk,
      (hkept content k).mp hrow, hmoved⟩

end Delivered

/-- The ids of the tool calls are distinct texts that are not empty. -/
def DistinctIds (content : List Json) : Prop :=
  (toolCallIds content).Nodup ∧
    ∀ id ∈ toolCallIds content, ∃ text, id = some (.str text) ∧ text ≠ ""

/-- Rewriting keeps the blocks and tells the calls apart, and is not undone by itself. -/
structure Consistent (content : List Json) : Prop where
  blocks : KeepsBlocks content (rewritten content)
  ids : DistinctIds content → (toolCallIds (rewritten content)).Nodup
  again : rewritten (rewritten content) = rewritten content

lemma nodup_rewritten_iff {content : List Json} (h : DistinctIds content) :
    (toolCallIds (rewritten content)).Nodup ↔ ¬ (contentPlan content).IdClash := by
  have hids : (toolCallIds ((contentPlan content).map Planned.block)).Nodup := by
    rw [block_contentPlan]; exact h.1
  rw [← nodup_ids_iff contentPlan_safe hids, flatten_contentPlan]

/-- A message and an event are consistent after rewriting if no part of a split call gets an id
that another call has, and the block of the event is not shifted. -/
theorem messages_consistent_iff (numberText : ℚ → String) (content : List Json) (event : Json) :
    (Consistent content ∧ PointsAtBlock numberText event) ↔
      (DistinctIds content → ¬ (contentPlan content).IdClash) ∧ ¬ Shifted numberText event := by
  refine and_congr ?_ pointsAtBlock_iff
  constructor
  · intro hconsistent hids; exact (nodup_rewritten_iff hids).mp (hconsistent.ids hids)
  · intro hclash
    exact ⟨keepsBlocks_rewritten, fun hids => (nodup_rewritten_iff hids).mpr (hclash hids),
      rewritten_rewritten⟩

/-- A text, a call that has the id of a part, and a call that is split. -/
def repeatedCalls : List Json :=
  [.obj [("type", .str "text"), ("text", .str "checking")],
    .obj [("type", .str "toolCall"), ("id", .str "call_split_1_hostname"), ("name", .str "exec"),
      ("arguments", .obj [("command", .str "hostname")])],
    .obj [("type", .str "toolCall"), ("id", .str "call"), ("name", .str "exec"),
      ("arguments", .obj [("command", .str "hostname; date")])]]

/-- A text that is streamed behind a block of reasoning. -/
def textEvent : Json :=
  .obj [("type", .str "text_delta"), ("contentIndex", .num 1), ("delta", .str "hi"),
    ("partial", .obj [("role", .str "assistant"), ("content", .arr [
      .obj [("type", .str "thinking"), ("thinking", .str "a greeting")],
      .obj [("type", .str "text"), ("text", .str "hi")]])])]

/-- A part gets the id that a call has, and an event names the place behind the last block. -/
theorem messages_not_consistent :
    ¬ Consistent repeatedCalls ∧ ¬ PointsAtBlock (fun _ => "0") textEvent := by
  constructor
  · intro h
    have hdistinct : DistinctIds repeatedCalls := by
      constructor <;> simp [toolCallIds, isToolCall, repeatedCalls, lookup_cons]
    have hresult : toolCallIds (rewritten repeatedCalls) =
        [some (.str "call_split_1_hostname"), some (.str "call_split_1_hostname"),
          some (.str "call_split_2_date")] := by
      rfl
    have hids := h.ids hdistinct
    rw [hresult] at hids; simp at hids
  · rw [pointsAtBlock_iff, not_not]
    refine ⟨by decide +kernel, _, 1, rfl, rfl, ?_, .inr ?_⟩
    · decide +kernel
    · decide +kernel

end NemoClaw.KimiCompat
