import NemoClaw.Inference.KimiCompat
import NemoClaw.Js.Call

/- What splitting the calls of a message does to its blocks.

A plan says of every block whether it is split, and into which commands. What stands for
the blocks are the rows of the plan; if all of them are harmless calls, only the first call
of a command is kept. Both the blocks of a message and those of an event are rewritten by
such a plan.

What is proved:
  1. `row_split` — a split call becomes one call for every command, in order.
  2. `buildSplitToolCallId_inj` — from which id, place and command an id of a part is made.
  3. `nodup_ids_iff` — when the ids of what is delivered are distinct.
-/
namespace NemoClaw.KimiCompat

open Js Json List

lemma decode_encode (original : Option Json) (command : String) :
    decodeToolCallArguments (some (encodeToolCallArgumentsLike original command)) =
      some [("command", .str command)] := by
  unfold encodeToolCallArgumentsLike
  split
  · have hparse : parseJson (objectText [("command", quote command)]) =
        some (.obj [("command", .str command)]) := by
      have hread : ∀ field ∈ [(⟨"command", quote command, .str command⟩ : Written)], ∀ depth,
          Reads (depth + 1) field.text field.value := by
        intro field hfield depth
        rw [mem_singleton.mp hfield]; exact reads_quote command
      have hspace : skipSpace "".toList = [] := rfl
      have hparse := parseJson_objectText hread (nodup_singleton _) hspace
      rwa [String.append_empty] at hparse
    simp only [decodeToolCallArguments, hparse]
  · rfl

lemma getSafeExecToolCallCommand_part (toolCall : Json) (index : ℕ) (command : String) :
    getSafeExecToolCallCommand (splitToolCall toolCall index command) = some command := by
  have hexec : isExecToolCall (splitToolCall toolCall index command) := rfl
  have harguments : (splitToolCall toolCall index command).get? "arguments" =
      some (encodeToolCallArgumentsLike (toolCall.get? "arguments") command) := rfl
  rw [getSafeExecToolCallCommand, if_pos hexec, harguments, decode_encode]; rfl

lemma safeCommand_part {toolCall : Json} {index : ℕ} {command : String}
    (h : command ∈ safeSplitExecCommands) :
    safeCommand (splitToolCall toolCall index command) = some command := by
  rw [safeCommand, getExecToolCallCommand, getSafeExecToolCallCommand_part]
  simp [Option.filter, h]

lemma splitSafeExecCommand_safe {command : String} {commands : List String}
    (h : splitSafeExecCommand command = some commands) :
    ∀ c ∈ commands, c ∈ safeSplitExecCommands := by
  unfold splitSafeExecCommand at h
  simp only at h
  split at h
  · cases h
  split at h
  · cases h
  split at h
  · cases h
  next hsafe =>
  cases h
  intro c hc
  by_contra hunsafe; exact hsafe (any_eq_true.mpr ⟨c, hc, decide_eq_true hunsafe⟩)

lemma splitSafeExecCommand_of_safe : ∀ c ∈ safeSplitExecCommands, splitSafeExecCommand c = none := by
  decide +kernel

lemma not_combined_of_safe {block : Json} {command : String} (h : safeCommand block = some command) :
    getSafeCombinedExecToolCallFromBlock block = none := by
  obtain ⟨hcommand, hsafe⟩ := Option.filter_eq_some_iff.mp h
  rw [getSafeCombinedExecToolCallFromBlock]
  rw [getExecToolCallCommand] at hcommand
  rw [hcommand]; exact splitSafeExecCommand_of_safe command (of_decide_eq_true hsafe)

lemma firsts_parts {α : Type} {kind : α → Option String} {part : ℕ → String → α}
    {commands : List String} (hkind : ∀ c ∈ commands, ∀ i, kind (part i c) = some c)
    (seen : List String) :
    FirstOfKind.firsts kind seen (commands.mapIdx part) =
      ((uniq commands).filter (· ∉ seen)).map fun c => part (commands.idxOf c) c := by
  induction commands generalizing seen part with
  | nil => rfl
  | cons c commands ih =>
    have hc := hkind c mem_cons_self 0
    have hrest := @ih (fun i => part (i + 1)) fun c' hc' i => hkind c' (mem_cons_of_mem c hc') _
    rw [mapIdx_cons]
    -- the commands behind the first, each one place further on
    have hmap : ∀ cs : List String, (∀ c' ∈ cs, c' ≠ c) →
        (cs.map fun c' => part (commands.idxOf c' + 1) c') =
          cs.map fun c' => part ((c :: commands).idxOf c') c' := by
      intro cs hcs
      refine map_congr_left fun c' hc' => ?_
      rw [idxOf_cons_ne _ (Ne.symm (hcs c' hc'))]
    by_cases hseen : c ∈ seen
    · rw [FirstOfKind.firsts_cons_seen hc hseen, hrest, uniq,
        filter_cons_of_neg (by simp [hseen]), filter_filter, hmap]
      · refine congrArg _ (filter_congr fun c' _ => ?_)
        by_cases heq : c' = c
        · simp [heq, hseen]
        · simp [heq]
      · rintro c' hc' rfl; exact absurd hseen (of_decide_eq_true (mem_filter.mp hc').2)
    · rw [FirstOfKind.firsts_cons_new hc hseen, hrest, uniq,
        filter_cons_of_pos (by simp [hseen]), map_cons, idxOf_cons_self,
        filter_filter, hmap]
      · refine congrArg _ (congrArg _ (filter_congr fun c' _ => ?_))
        simp [mem_cons, not_or, Bool.and_comm]
      · rintro c' hc' rfl
        have hnew := of_decide_eq_true (mem_filter.mp hc').2
        exact hnew mem_cons_self

lemma sep_inj {α : Type} {sep : α} {x y a b : List α} (hx : sep ∉ x) (hy : sep ∉ y)
    (h : x ++ sep :: a = y ++ sep :: b) : x = y ∧ a = b := by
  induction x generalizing y with
  | nil =>
    cases y with
    | nil => exact ⟨rfl, (cons.inj h).2⟩
    | cons c y => exact absurd ((cons.inj h).1 ▸ mem_cons_self) hy
  | cons c x ih =>
    cases y with
    | nil => exact absurd ((cons.inj h).1.symm ▸ mem_cons_self) hx
    | cons d y =>
    obtain ⟨rfl, htail⟩ := cons.inj h
    obtain ⟨rfl, hrest⟩ := ih (fun hc => hx (mem_cons_of_mem _ hc))
      (fun hd => hy (mem_cons_of_mem _ hd)) htail
    exact ⟨rfl, hrest⟩

/-- The last part of a text, behind the last separator. -/
lemma sep_inj_last {α : Type} {sep : α} {a b x y : List α} (hx : sep ∉ x) (hy : sep ∉ y)
    (h : a ++ sep :: x = b ++ sep :: y) : a = b ∧ x = y := by
  have hreversed := congrArg List.reverse h
  simp only [reverse_append, reverse_cons, append_assoc, singleton_append]
    at hreversed
  obtain ⟨hlast, hfirst⟩ := sep_inj (by simpa using hx) (by simpa using hy) hreversed
  exact ⟨reverse_injective hfirst, reverse_injective hlast⟩

lemma underscore_notMem_safe : ∀ c ∈ safeSplitExecCommands, '_' ∉ c.toList := by
  decide

lemma underscore_notMem_repr (n : ℕ) : '_' ∉ (Nat.repr n).toList := by
  intro h; exact absurd (isDigit_of_mem_repr h) (by decide)

lemma toList_buildSplitToolCallId (id : Option Json) (n : ℕ) (c : String) :
    (buildSplitToolCallId id n c).toList =
      ((baseToolCallId id).toList ++ "_split".toList ++ '_' :: (Nat.repr (n + 1)).toList) ++
        '_' :: c.toList := by
  simp [buildSplitToolCallId, String.toList_append, append_assoc]

theorem buildSplitToolCallId_inj {id id' : Option Json} {n n' : ℕ} {c c' : String}
    (hc : c ∈ safeSplitExecCommands) (hc' : c' ∈ safeSplitExecCommands) :
    buildSplitToolCallId id n c = buildSplitToolCallId id' n' c' ↔
      baseToolCallId id = baseToolCallId id' ∧ n = n' ∧ c = c' := by
  constructor
  · intro h
    have htext := congrArg String.toList h
    rw [toList_buildSplitToolCallId, toList_buildSplitToolCallId] at htext
    obtain ⟨htext, hcommand⟩ := sep_inj_last (underscore_notMem_safe c hc)
      (underscore_notMem_safe c' hc') htext
    obtain ⟨htext, hnumber⟩ := sep_inj_last (underscore_notMem_repr (n + 1))
      (underscore_notMem_repr (n' + 1)) htext
    have hn := repr_injective (String.toList_inj.mp hnumber)
    exact ⟨String.toList_inj.mp (append_cancel_right htext), by omega,
      String.toList_inj.mp hcommand⟩
  · rintro ⟨hbase, rfl, rfl⟩
    rw [buildSplitToolCallId, hbase]; rfl

/-! ## Plans -/

structure Planned where
  block : Json
  split : Option (List String)

abbrev Plan := List Planned

namespace Planned

variable (e : Planned)

/-- What stands for the block. -/
def row : List Json :=
  match e.split with
  | some commands => dedupeSafeExecToolCalls (buildSplitToolCalls e.block commands)
  | none => [e.block]

/-- The commands of what stands for the block, as far as they are harmless. -/
def commands : List String :=
  match e.split with
  | some commands => uniq commands
  | none => (safeCommand e.block).toList

/-- Only harmless calls stand for the block. -/
def isDiagnostic : Bool := e.split.isSome || isSafeExecToolCall e.block

def Safe : Prop := ∀ commands, e.split = some commands → ∀ c ∈ commands, c ∈ safeSplitExecCommands

end Planned

namespace Plan

variable (plan : Plan)

def rows : List (List Json) := plan.map Planned.row

/-- A call is split, and only harmless calls stand for the blocks. -/
def dedupes : Bool := plan.any (·.split.isSome) && plan.all Planned.isDiagnostic

def delivered : List (List Json) :=
  if dedupes plan then FirstOfKind.newRows safeCommand [] (rows plan) else rows plan

/-- No block before has the command, if calls of a command are delivered once. -/
def isFresh (i : ℕ) (c : String) : Bool :=
  !dedupes plan || c ∉ (plan.take i).flatMap Planned.commands

/-- The commands of a split block whose calls are delivered. -/
def freshCommands (i : ℕ) (commands : List String) : List String :=
  (uniq commands).filter (isFresh plan i)

/-- A block that is not split is delivered, unless its command is one of a block before. -/
def isKept (i : ℕ) (block : Json) : Bool := (safeCommand block).all (isFresh plan i)

def deliveredRow (i : ℕ) (e : Planned) : List Json :=
  match e.split with
  | some commands =>
    (freshCommands plan i commands).map fun c => splitToolCall e.block (commands.idxOf c) c
  | none => [e.block].filter (isKept plan i)

end Plan

section Rows

variable {e : Planned} {plan : Plan}

theorem row_split {block : Json} {commands : List String}
    (h : ∀ c ∈ commands, c ∈ safeSplitExecCommands) :
    (Planned.mk block (some commands)).row =
      (uniq commands).map fun c => splitToolCall block (commands.idxOf c) c := by
  have hkind : ∀ c ∈ commands, ∀ i, safeCommand (splitToolCall block i c) = some c :=
    fun c hc i => safeCommand_part (h c hc)
  have hparts := firsts_parts hkind []
  simpa [Planned.row, dedupeSafeExecToolCalls, buildSplitToolCalls] using hparts

lemma filterMap_safeCommand_row (h : e.Safe) : e.row.filterMap safeCommand = e.commands := by
  obtain ⟨block, split⟩ := e
  cases split with
  | none =>
    show [block].filterMap safeCommand = (safeCommand block).toList
    cases hcommand : safeCommand block <;> simp [hcommand]
  | some commands =>
    have hsafe := h commands rfl
    rw [row_split hsafe, filterMap_map]
    show (uniq commands).filterMap _ = uniq commands
    have hsame : ∀ c ∈ uniq commands,
        (safeCommand ∘ fun c => splitToolCall block (commands.idxOf c) c) c = some c :=
      fun c hc => safeCommand_part (hsafe c (mem_uniq.mp hc))
    rw [filterMap_congr hsame, filterMap_some]

lemma nodup_commands : e.commands.Nodup := by
  unfold Planned.commands
  split
  · exact nodup_uniq _
  · cases safeCommand e.block <;> simp

lemma all_row (h : e.Safe) : e.row.all isSafeExecToolCall = e.isDiagnostic := by
  obtain ⟨block, split⟩ := e
  cases split with
  | none => simp [Planned.row, Planned.isDiagnostic]
  | some commands =>
  have hsafe := h commands rfl
  rw [row_split hsafe]
  simp only [Planned.isDiagnostic, Option.isSome_some, Bool.true_or, all_map,
    all_eq_true]
  intro c hc; simp [isSafeExecToolCall, safeCommand_part (hsafe c (mem_uniq.mp hc))]

lemma all_rows (h : ∀ e ∈ plan, e.Safe) :
    (Plan.rows plan).flatten.all isSafeExecToolCall = plan.all Planned.isDiagnostic := by
  rw [all_flatten, Plan.rows, all_map]
  induction plan with
  | nil => rfl
  | cons e plan ih =>
    obtain ⟨he, hplan⟩ := forall_mem_cons.mp h
    rw [all_cons, all_cons, ih hplan, ← all_row he]; rfl

/-- The rows are what the code makes of the blocks. -/
lemma flatten_delivered (h : ∀ e ∈ plan, e.Safe) : (Plan.delivered plan).flatten =
    if plan.any (·.split.isSome) then
      dedupeAllSafeDiagnosticExecToolCalls (Plan.rows plan).flatten
    else (Plan.rows plan).flatten := by
  have hnodup : ∀ row ∈ Plan.rows plan, (row.filterMap safeCommand).Nodup := by
    intro row hrow
    obtain ⟨e, he, rfl⟩ := mem_map.mp hrow
    rw [filterMap_safeCommand_row (h e he)]; exact nodup_commands
  unfold Plan.delivered Plan.dedupes dedupeAllSafeDiagnosticExecToolCalls dedupeSafeExecToolCalls
  rw [all_rows h, FirstOfKind.firsts_flatten hnodup]
  cases plan.any (·.split.isSome) <;> cases plan.all Planned.isDiagnostic <;> rfl

lemma flatMap_commands (h : ∀ e ∈ plan, e.Safe) :
    (Plan.rows plan).flatten.filterMap safeCommand = plan.flatMap Planned.commands := by
  induction plan with
  | nil => rfl
  | cons e plan ih =>
    obtain ⟨he, hplan⟩ := forall_mem_cons.mp h
    have hcons : (Plan.rows (e :: plan)).flatten = e.row ++ (Plan.rows plan).flatten := rfl
    rw [hcons, filterMap_append, filterMap_safeCommand_row he, ih hplan, flatMap_cons]

lemma filter_row (h : e.Safe) (i : ℕ) :
    e.row.filter (Plan.isKept plan i) = Plan.deliveredRow plan i e := by
  obtain ⟨block, split⟩ := e
  cases split with
  | none => rfl
  | some commands =>
  have hsafe := h commands rfl
  rw [row_split hsafe, filter_map]
  refine congrArg (List.map _) (filter_congr fun c hc => ?_)
  simp [Plan.isKept, safeCommand_part (hsafe c (mem_uniq.mp hc))]

lemma getElem?_delivered (h : ∀ e ∈ plan, e.Safe) (i : ℕ) :
    (Plan.delivered plan)[i]? = plan[i]?.map (Plan.deliveredRow plan i) := by
  have hrow : ∀ e, plan[i]? = some e →
      e.row.filter (Plan.isKept plan i) = Plan.deliveredRow plan i e :=
    fun e he => filter_row (h e (mem_of_getElem? he)) i
  have hrows : (Plan.delivered plan)[i]? =
      plan[i]?.map fun e => e.row.filter (Plan.isKept plan i) := by
    unfold Plan.delivered
    split
    · next hdedupes =>
      have htake : (Plan.rows plan).take i = Plan.rows (plan.take i) := (map_take ..).symm
      have hbefore : ∀ e ∈ plan.take i, e.Safe := fun e he => h e (mem_of_mem_take he)
      have hfresh : Plan.isFresh plan i =
          fun c => decide (c ∉ (plan.take i).flatMap Planned.commands) := by
        funext c
        rw [Plan.isFresh, hdedupes, Bool.not_true, Bool.false_or]
      have hnew : Plan.isKept plan i =
          FirstOfKind.isNew safeCommand ((plan.take i).flatMap Planned.commands) := by
        funext block
        rw [Plan.isKept, hfresh, FirstOfKind.isNew]
      rw [FirstOfKind.getElem?_newRows, htake, flatMap_commands hbefore, nil_append, hnew,
        Plan.rows, List.getElem?_map, Option.map_map]
      rfl
    · next hdedupes =>
      have hkept : ∀ block : Json, Plan.isKept plan i block := by
        intro block; simp [Plan.isKept, Plan.isFresh, hdedupes, Option.all_eq_true]
      have hall : ∀ e : Planned, e.row.filter (Plan.isKept plan i) = e.row :=
        fun e => filter_eq_self.mpr fun block _ => hkept block
      simp only [Plan.rows, List.getElem?_map, hall]
  rw [hrows]
  cases he : plan[i]? with
  | none => rfl
  | some e => exact congrArg some (hrow e he)

end Rows

/-! ## Ids of calls -/

def isToolCall (block : Json) : Bool := readString (block.get? "type") = some "toolCall"

def toolCallIds (content : List Json) : List (Option Json) :=
  (content.filter isToolCall).map (·.get? "id")

def partId (call : Json) (commands : List String) (c : String) : Option Json :=
  some (.str (buildSplitToolCallId (call.get? "id") (commands.idxOf c) c))

def Plan.givenIds (plan : Plan) (i : ℕ) (e : Planned) : List (Option Json) :=
  match e.split with
  | some commands => (plan.freshCommands i commands).map (partId e.block commands)
  | none =>
    if isToolCall e.block && plan.isKept i e.block then [e.block.get? "id"] else []

/-- A part of the call `a` gets the id of a call of `b`, or of a part of it. -/
def Plan.Clashes (plan : Plan) (i : ℕ) (a : Planned) (j : ℕ) (b : Planned) : Prop :=
  ∃ commands c, a.split = some commands ∧ c ∈ plan.freshCommands i commands ∧
    match b.split with
    | some commands' => c ∈ plan.freshCommands j commands' ∧
        commands.idxOf c = commands'.idxOf c ∧
        baseToolCallId (a.block.get? "id") = baseToolCallId (b.block.get? "id")
    | none => isToolCall b.block ∧ plan.isKept j b.block ∧
        b.block.get? "id" = partId a.block commands c

/-- A part gets the id of a call of another block. -/
def Plan.IdClash (plan : Plan) : Prop :=
  ∃ i j a b, i ≠ j ∧ plan[i]? = some a ∧ plan[j]? = some b ∧ plan.Clashes i a j b

section Ids

variable {e : Planned} {plan : Plan}

lemma mem_freshCommands {i : ℕ} {commands : List String} {c : String} :
    c ∈ plan.freshCommands i commands ↔ c ∈ commands ∧ plan.isFresh i c := by
  rw [Plan.freshCommands, mem_filter, mem_uniq]

lemma toolCallIds_append (xs ys : List Json) :
    toolCallIds (xs ++ ys) = toolCallIds xs ++ toolCallIds ys := by
  rw [toolCallIds, filter_append, map_append]; rfl

lemma toolCallIds_flatten (rows : List (List Json)) :
    toolCallIds rows.flatten = (rows.map toolCallIds).flatten := by
  induction rows with
  | nil => rfl
  | cons row rows ih =>
    rw [flatten_cons, toolCallIds_append, ih, map_cons, flatten_cons]

lemma toolCallIds_deliveredRow (i : ℕ) :
    toolCallIds (plan.deliveredRow i e) = plan.givenIds i e := by
  obtain ⟨block, split⟩ := e
  cases split with
  | none =>
    by_cases hkept : plan.isKept i block <;> by_cases hcall : isToolCall block <;>
      simp [toolCallIds, Plan.deliveredRow, Plan.givenIds, hkept, hcall]
  | some commands =>
    have hall : ∀ cs : List String, toolCallIds (cs.map fun c =>
        splitToolCall block (commands.idxOf c) c) = cs.map (partId block commands) := by
      intro cs
      induction cs with
      | nil => rfl
      | cons c cs ih => rw [map_cons, map_cons, ← ih]; rfl
    exact hall _

lemma partId_inj {call call' : Json} {commands commands' : List String} {c c' : String}
    (hc : c ∈ safeSplitExecCommands) (hc' : c' ∈ safeSplitExecCommands) :
    partId call commands c = partId call' commands' c' ↔
      baseToolCallId (call.get? "id") = baseToolCallId (call'.get? "id") ∧
        commands.idxOf c = commands'.idxOf c' ∧ c = c' := by
  rw [← buildSplitToolCallId_inj hc hc']; simp [partId]

lemma nodup_givenIds (h : e.Safe) (i : ℕ) : (plan.givenIds i e).Nodup := by
  obtain ⟨block, split⟩ := e
  cases split with
  | none =>
    unfold Plan.givenIds
    dsimp only
    split
    · exact nodup_singleton _
    · exact nodup_nil
  | some commands =>
    have hsafe := h commands rfl
    refine Nodup.map_on ?_ ((nodup_uniq commands).filter _)
    intro c hc c' hc' heq
    have hc := hsafe c (mem_freshCommands.mp hc).1
    have hc' := hsafe c' (mem_freshCommands.mp hc').1
    exact ((partId_inj hc hc').mp heq).2.2

lemma mem_givenIds_whole {block : Json} {i : ℕ} {id : Option Json} :
    id ∈ plan.givenIds i ⟨block, none⟩ ↔
      isToolCall block ∧ plan.isKept i block ∧ id = block.get? "id" := by
  unfold Plan.givenIds
  dsimp only
  split
  · next h =>
    obtain ⟨hcall, hkept⟩ := Bool.and_eq_true_iff.mp h
    rw [mem_singleton]; exact ⟨fun hid => ⟨hcall, hkept, hid⟩, fun hid => hid.2.2⟩
  · next h =>
    refine ⟨fun hid => absurd hid not_mem_nil, ?_⟩
    rintro ⟨hcall, hkept, -⟩; exact absurd (Bool.and_eq_true_iff.mpr ⟨hcall, hkept⟩) h

lemma mem_givenIds_split {block : Json} {commands : List String} {i : ℕ} {id : Option Json} :
    id ∈ plan.givenIds i ⟨block, some commands⟩ ↔
      ∃ c ∈ plan.freshCommands i commands, partId block commands c = id := by
  exact mem_map

lemma common_id_iff {a b : Planned} {i j : ℕ} (ha : a.Safe) (hb : b.Safe)
    (hwhole : a.split = none → b.split = none → isToolCall a.block →
      isToolCall b.block → a.block.get? "id" ≠ b.block.get? "id") :
    (∃ id ∈ plan.givenIds i a, id ∈ plan.givenIds j b) ↔
      plan.Clashes i a j b ∨ plan.Clashes j b i a := by
  obtain ⟨block, split⟩ := a
  obtain ⟨block', split'⟩ := b
  cases split with
  | none =>
    cases split' with
    | none =>
      simp only [mem_givenIds_whole, Plan.Clashes]
      constructor
      · rintro ⟨id, ⟨hcall, -, rfl⟩, hcall', -, heq⟩
        exact absurd heq (hwhole rfl rfl hcall hcall')
      · rintro (⟨_, _, h, _⟩ | ⟨_, _, h, _⟩) <;> cases h
    | some commands' =>
      simp only [mem_givenIds_whole, mem_givenIds_split, Plan.Clashes]
      constructor
      · rintro ⟨id, ⟨hcall, hkept, rfl⟩, c, hc, hid⟩
        exact .inr ⟨commands', c, rfl, hc, hcall, hkept, hid.symm⟩
      rintro (⟨_, _, h, _⟩ | ⟨_, c, h, hc, hcall, hkept, hid⟩)
      · cases h
      · cases h; exact ⟨_, ⟨hcall, hkept, rfl⟩, c, hc, hid.symm⟩
  | some commands =>
    have hsafe := ha commands rfl
    cases split' with
    | none =>
      simp only [mem_givenIds_whole, mem_givenIds_split, Plan.Clashes]
      constructor
      · rintro ⟨id, ⟨c, hc, rfl⟩, hcall, hkept, hid⟩
        exact .inl ⟨commands, c, rfl, hc, hcall, hkept, hid.symm⟩
      rintro (⟨_, c, h, hc, hcall, hkept, hid⟩ | ⟨_, _, h, _⟩)
      · cases h; exact ⟨_, ⟨c, hc, rfl⟩, hcall, hkept, hid.symm⟩
      · cases h
    | some commands' =>
      have hsafe' := hb commands' rfl
      simp only [mem_givenIds_split, Plan.Clashes]
      constructor
      · rintro ⟨id, ⟨c, hc, rfl⟩, c', hc', hid⟩
        obtain ⟨hbase, hplace, rfl⟩ := (partId_inj (hsafe' c' (mem_freshCommands.mp hc').1)
          (hsafe c (mem_freshCommands.mp hc).1)).mp hid
        exact .inl ⟨commands, c', rfl, hc, hc', hplace.symm, hbase.symm⟩
      · rintro (⟨_, c, h, hc, hc', hplace, hbase⟩ | ⟨_, c, h, hc, hc', hplace, hbase⟩)
        · cases h
          have hin := hsafe c (mem_freshCommands.mp hc).1
          exact ⟨_, ⟨c, hc, rfl⟩, c, hc', (partId_inj hin hin).mpr ⟨hbase.symm, hplace.symm, rfl⟩⟩
        · cases h
          have hin := hsafe c (mem_freshCommands.mp hc').1
          exact ⟨_, ⟨c, hc', rfl⟩, c, hc, (partId_inj hin hin).mpr ⟨hbase, hplace, rfl⟩⟩

lemma pairwise_iff_getElem? {α : Type} {R : α → α → Prop} {l : List α} :
    l.Pairwise R ↔ ∀ (i j : ℕ) a b, i < j → l[i]? = some a → l[j]? = some b → R a b := by
  rw [pairwise_iff_getElem]
  constructor
  · intro h i j a b hij ha hb
    obtain ⟨hi, rfl⟩ := List.getElem?_eq_some_iff.mp ha
    obtain ⟨hj, rfl⟩ := List.getElem?_eq_some_iff.mp hb; exact h i j hi hj hij
  · intro h i j hi hj hij
    exact h i j _ _ hij (List.getElem?_eq_getElem hi) (List.getElem?_eq_getElem hj)

lemma id_ne_of_nodup (hids : (toolCallIds (plan.map Planned.block)).Nodup) {i j : ℕ}
    {a b : Planned} (hij : i ≠ j) (ha : plan[i]? = some a) (hb : plan[j]? = some b)
    (hcall : isToolCall a.block) (hcall' : isToolCall b.block) :
    a.block.get? "id" ≠ b.block.get? "id" := by
  have hpairs := pairwise_iff_getElem?.mp
    (pairwise_map.mp (pairwise_filter.mp (pairwise_map.mp hids)))
  rcases Nat.lt_or_gt_of_ne hij with hlt | hlt
  · exact hpairs i j a b hlt ha hb hcall hcall'
  · exact (hpairs j i b a hlt hb ha hcall' hcall).symm

theorem nodup_ids_iff (h : ∀ e ∈ plan, e.Safe)
    (hids : (toolCallIds (plan.map Planned.block)).Nodup) :
    (toolCallIds plan.delivered.flatten).Nodup ↔ ¬ plan.IdClash := by
  have hrow : ∀ i, (plan.delivered.map toolCallIds)[i]? = plan[i]?.map (plan.givenIds i) := by
    intro i
    have hids : toolCallIds ∘ plan.deliveredRow i = plan.givenIds i :=
      funext fun e => toolCallIds_deliveredRow i
    rw [List.getElem?_map, getElem?_delivered h, Option.map_map, hids]
  have hsafe : ∀ {i : ℕ} {e : Planned}, plan[i]? = some e → e.Safe :=
    fun he => h _ (mem_of_getElem? he)
  have hcommon : ∀ {i j : ℕ} {a b : Planned}, i ≠ j → plan[i]? = some a → plan[j]? = some b →
      ((∃ id ∈ plan.givenIds i a, id ∈ plan.givenIds j b) ↔
        plan.Clashes i a j b ∨ plan.Clashes j b i a) :=
    fun hij ha hb => common_id_iff (hsafe ha) (hsafe hb)
      fun _ _ => id_ne_of_nodup hids hij ha hb
  rw [toolCallIds_flatten, nodup_flatten, pairwise_iff_getElem?]
  constructor
  · rintro ⟨-, hdisjoint⟩ ⟨i, j, a, b, hij, ha, hb, hclash⟩
    have hdisjoint : ∀ {i j : ℕ} {a b : Planned}, i < j → plan[i]? = some a →
        plan[j]? = some b → List.Disjoint (plan.givenIds i a) (plan.givenIds j b) := by
      intro i j a b hij ha hb
      exact hdisjoint i j _ _ hij (by rw [hrow, ha]; rfl) (by rw [hrow, hb]; rfl)
    rcases Nat.lt_or_gt_of_ne hij with hlt | hlt
    · obtain ⟨id, hid, hid'⟩ := (hcommon hij ha hb).mpr (.inl hclash)
      exact hdisjoint hlt ha hb hid hid'
    · obtain ⟨id, hid, hid'⟩ := (hcommon hij.symm hb ha).mpr (.inr hclash)
      exact hdisjoint hlt hb ha hid hid'
  · intro hclash
    constructor
    · intro ids hmem
      obtain ⟨i, hi⟩ := mem_iff_getElem?.mp hmem
      rw [hrow] at hi
      obtain ⟨e, he, rfl⟩ := Option.map_eq_some_iff.mp hi; exact nodup_givenIds (hsafe he) i
    · intro i j ids ids' hij hi hj id hid hid'
      rw [hrow] at hi hj
      obtain ⟨a, ha, rfl⟩ := Option.map_eq_some_iff.mp hi
      obtain ⟨b, hb, rfl⟩ := Option.map_eq_some_iff.mp hj
      have hne : i ≠ j := by omega
      rcases (hcommon hne ha hb).mp ⟨id, hid, hid'⟩ with hab | hba
      · exact hclash ⟨i, j, a, b, hne, ha, hb, hab⟩
      · exact hclash ⟨j, i, b, a, hne.symm, hb, ha, hba⟩

end Ids

end NemoClaw.KimiCompat
