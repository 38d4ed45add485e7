import NemoClaw.Js.Merge
import NemoClaw.Js.ParseJson
import NemoClaw.Js.Text
import NemoClaw.Lib.FirstOfKind

/- What the Kimi compatibility plugin does to a stream of messages.

Kimi may put several diagnostic commands in one `exec` call. Where all of them are harmless
the call is split, one call for each command; what the model says of its reasoning is taken
out. Both is done to the final message and to the partial message of every event, whose
blocks the event names by their index.

Correspondence (nemoclaw-blueprint/openclaw-plugins/kimi-inference-compat/index.js ↔ Lean):
the functions keep their names. A message or an event is a JSON value, and a function that
changes it gives the changed value; `none` stands for an unchanged one. How a number is
written is the parameter `numberText`; an object is written as `[object Object]`.
-/
namespace NemoClaw.KimiCompat

open Js Json

/-! ## Reasoning -/

/-- The fields in which a message carries its reasoning. -/
def reasoningFieldNames : List String :=
  ["reasoning", "reasoningContent", "reasoning_content", "reasoningDetails", "reasoning_details",
    "thinking", "thinkingContent", "thinking_content"]

/-- The types of events that carry reasoning. -/
def reasoningEventTypes : List String :=
  ["reasoning", "reasoning_delta", "reasoning.content.delta", "thinking", "thinking_delta",
    "thinking.content.delta"]

/-- The types of blocks that carry reasoning. -/
def reasoningContentTypes : List String :=
  ["reasoning", "reasoning_delta", "reasoningcontent", "reasoning_content", "thinking",
    "thinking_delta", "thinkingcontent", "thinking_content"]

section Reasoning

variable (numberText : ℚ → String)

mutual

/-- `String(value)`. -/
def toText : Json → String
  | .null => "null"
  | .bool b => boolText b
  | .num q => numberText q
  | .str s => s
  | .arr xs => joinComma (toTexts xs)
  | .obj _ => "[object Object]"

/-- The elements as `join` writes them. -/
def toTexts : List Json → List String
  | [] => []
  | .null :: xs => "" :: toTexts xs
  | x :: xs => toText x :: toTexts xs

end

/-- `value || ""`, as a text. -/
def textOrEmpty : Option Json → String
  | none | some .null | some (.bool false) => ""
  | some (.num q) => if q = 0 then "" else numberText q
  | some value => toText numberText value

/-- The text of a value in lower case, without blanks at its ends. -/
def normalize (value : Option Json) : String := jsToLowerCase (jsTrim (textOrEmpty numberText value))

/-- `text.includes(part)`. -/
def includes (text part : String) : Bool := part.toList <:+: text.toList

/-- An object whose type is one of those or has one of the two words in it. -/
def hasReasoningType (types : List String) (value : Json) : Bool :=
  let type := normalize numberText (value.get? "type")
  value.isObject && (type ∈ types || includes type "reasoning" || includes type "thinking")

/-- The block carries reasoning. -/
def isReasoningContentBlock (value : Json) : Bool :=
  hasReasoningType numberText reasoningContentTypes value

/-- The event carries reasoning. -/
def isReasoningEvent (event : Json) : Bool := hasReasoningType numberText reasoningEventTypes event

/-- The properties without those of reasoning. -/
def plainFields (fields : List (String × Json)) : List (String × Json) :=
  fields.filter fun kv => kv.1 ∉ reasoningFieldNames

/-- The object without its reasoning fields. -/
def stripReasoningFields : Json → Json
  | .obj fields => .obj (plainFields fields)
  | value => value

/-- The blocks that carry no reasoning, without such fields. -/
def stripReasoningContentBlocks (blocks : List Json) : List Json :=
  (blocks.filter fun block => !isReasoningContentBlock numberText block).map stripReasoningFields

/-- A message without reasoning. -/
def stripReasoningFromMessage : Json → Json
  | .obj fields =>
    match (plainFields fields).lookup "content" with
    | some (.arr blocks) =>
      .obj (setOwn (plainFields fields) "content"
        (.arr (stripReasoningContentBlocks numberText blocks)))
    | _ => .obj (plainFields fields)
  | value => value

/-- The object that a property has is changed. -/
def modifyOwn (key : String) (f : Json → Json) (fields : List (String × Json)) :
    List (String × Json) :=
  fields.map fun kv => if kv.1 = key then (key, f kv.2) else kv

/-- A choice without reasoning in its message and its delta. -/
def stripReasoningFromChoice : Json → Json
  | .obj fields =>
    .obj (modifyOwn "delta" (stripReasoningFromMessage numberText)
      (modifyOwn "message" (stripReasoningFromMessage numberText) (plainFields fields)))
  | value => value

/-- The choices of a response without reasoning. -/
def stripReasoningFromChoices : Json → Json
  | .arr choices => .arr (choices.map (stripReasoningFromChoice numberText))
  | value => value

/-- `none` where the event is dropped. -/
def filterReasoningFromEvent : Json → Option Json
  | .obj fields =>
    if isReasoningEvent numberText (.obj fields) then none
    else
      let message := stripReasoningFromMessage numberText
      some (.obj (modifyOwn "choices" (stripReasoningFromChoices numberText)
        (modifyOwn "delta" message (modifyOwn "partial" message
          (modifyOwn "message" message (plainFields fields))))))
  | event => some event

end Reasoning

/-! ## Splitting a call -/

/-- The commands that may be split. -/
def safeSplitExecCommands : List String := ["hostname", "date", "uptime"]

/-- The arguments of a call, be they an object or its text. -/
def decodeToolCallArguments : Option Json → Option (List (String × Json))
  | some (.obj fields) => some fields
  | some (.str text) =>
    match parseJson text with
    | some (.obj fields) => some fields
    | _ => none
  | _ => none

/-- Arguments with a command, written the way the original ones are. -/
def encodeToolCallArgumentsLike (original : Option Json) (command : String) : Json :=
  if (readString original).isSome then .str (objectText [("command", quote command)])
  else .obj [("command", .str command)]

/-- The command of arguments that have nothing else. -/
def onlyCommand (args : List (String × Json)) : Option String :=
  if args.map (·.1) = ["command"] then readString (args.lookup "command") else none

/-- The commands that a line puts together, if all of them are safe. -/
def splitSafeExecCommand (command : String) : Option (List String) :=
  if ';' ∉ command.toList then none
  else
    let parts := (command.toList.splitOn ';').map fun part => jsTrim (.ofList part)
    if parts.length < 2 then none
    else if parts.any (· ∉ safeSplitExecCommands) then none else some parts

/-- `id.replace(/_split_\d+_(hostname|date|uptime)$/, "")`. -/
def withoutSplitSuffix (id : String) : String :=
  let reversed := id.toList.reverse
  match safeSplitExecCommands.find? fun c => ("_" ++ c).toList.reverse.isPrefixOf reversed with
  | none => id
  | some command =>
    let before := reversed.drop (command.toList.length + 1)
    let rest := before.dropWhile isDigit
    if before.takeWhile isDigit ≠ [] ∧ "_split_".toList.reverse.isPrefixOf rest then
      .ofList (rest.drop 7).reverse
    else id

/-- The id that the ids of the parts are made of. -/
def baseToolCallId (originalId : Option Json) : String :=
  match (readString originalId).filter (jsTrim · ≠ "") with
  | some id => withoutSplitSuffix (jsTrim id)
  | none => withoutSplitSuffix "kimi_exec"

/-- The id of one of the calls that come of a split. -/
def buildSplitToolCallId (originalId : Option Json) (index : ℕ) (command : String) : String :=
  baseToolCallId originalId ++ "_split_" ++ Nat.repr (index + 1) ++ "_" ++ command

/-- The block calls the shell. -/
def isExecToolCall (toolCall : Json) : Bool :=
  readString (toolCall.get? "type") = some "toolCall" && readString (toolCall.get? "name") = some "exec"

/-- The command of a call that has nothing besides it. -/
def getSafeExecToolCallCommand (toolCall : Json) : Option String :=
  if isExecToolCall toolCall then
    (decodeToolCallArguments (toolCall.get? "arguments")).bind onlyCommand
  else none

def getExecToolCallCommand (toolCall : Json) : Option String := getSafeExecToolCallCommand toolCall

/-- The commands of a call that puts some together. -/
def getSafeCombinedExecToolCallFromBlock (toolCall : Json) : Option (List String) :=
  (getSafeExecToolCallCommand toolCall).bind splitSafeExecCommand

/-- The safe command that a call runs, if it runs one. -/
def safeCommand (toolCall : Json) : Option String :=
  (getExecToolCallCommand toolCall).filter (· ∈ safeSplitExecCommands)

def isSafeExecToolCall (toolCall : Json) : Bool := (safeCommand toolCall).isSome

/-- The call of one command of a split. -/
def splitToolCall (toolCall : Json) (index : ℕ) (command : String) : Json :=
  .obj [("type", .str "toolCall"),
    ("id", .str (buildSplitToolCallId (toolCall.get? "id") index command)), ("name", .str "exec"),
    ("arguments", encodeToolCallArgumentsLike (toolCall.get? "arguments") command)]

/-- The calls of all its commands. -/
def buildSplitToolCalls (toolCall : Json) (commands : List String) : List Json :=
  commands.mapIdx (splitToolCall toolCall)

/-- Each safe command is called once. -/
def dedupeSafeExecToolCalls (content : List Json) : List Json :=
  FirstOfKind.firsts safeCommand [] content

/-- The same, where there is nothing but safe calls. -/
def dedupeAllSafeDiagnosticExecToolCalls (content : List Json) : List Json :=
  if content.all isSafeExecToolCall then dedupeSafeExecToolCalls content else content

/-- A block, or the calls that it puts together. -/
def expandBlock (block : Json) : List Json :=
  match getSafeCombinedExecToolCallFromBlock block with
  | some commands => dedupeSafeExecToolCalls (buildSplitToolCalls block commands)
  | none => [block]

/-- The block puts commands together. -/
def isCombined (block : Json) : Bool := (getSafeCombinedExecToolCallFromBlock block).isSome

/-- `none` where no block is split. -/
def rewriteSafeCombinedExecToolCallsInContent (content : List Json) : Option (List Json) :=
  if content.any isCombined then
    some (dedupeAllSafeDiagnosticExecToolCalls (content.flatMap expandBlock))
  else none

/-- The blocks of a message. -/
def contentBlocks (message : Json) : Option (List Json) :=
  match message.get? "content" with
  | some (.arr blocks) => some blocks
  | _ => none

/-- The message with other blocks, which ends in the use of a tool. -/
def withContent (content : List Json) : Json → Json
  | .obj fields =>
    let fields := setOwn fields "content" (.arr content)
    if readString (fields.lookup "stopReason") = some "stop" then
      .obj (setOwn fields "stopReason" (.str "toolUse"))
    else .obj fields
  | message => message

/-- `none` where the message stays as it is. -/
def applySafeExecSplitToMessage (message : Json) : Option Json :=
  ((contentBlocks message).bind rewriteSafeCombinedExecToolCallsInContent).map fun content =>
    withContent content message

/-- A call that is to be split, and where it stands. -/
structure Split where
  commands : List String
  toolCall : Json
  contentIndex : ℕ

/-- The message with the call split in place. -/
def applySafeExecSplitAtContentIndex (message : Json) (split : Split) : Json :=
  match contentBlocks message with
  | none => message
  | some content =>
    if content.length ≤ split.contentIndex then message
    else
      let replacement := dedupeSafeExecToolCalls (buildSplitToolCalls split.toolCall split.commands)
      withContent (dedupeAllSafeDiagnosticExecToolCalls
        (content.take split.contentIndex ++ replacement ++ content.drop (split.contentIndex + 1)))
        message

/-- `Number.isInteger(event.contentIndex) ? event.contentIndex : 0`. -/
def eventContentIndex (event : Json) : ℤ := (readInteger (event.get? "contentIndex")).getD 0

/-- `content[index]`. -/
def blockAt (content : List Json) (index : ℤ) : Option Json :=
  if 0 ≤ index then content[index.toNat]? else none

/-- Which of the commands an event is about. -/
def targetSplitCommandIndex (event : Json) (split : Split) : ℕ :=
  let rawIndex := eventContentIndex event
  let fallbackIndex := min (max rawIndex 0).toNat (split.commands.length - 1)
  let content := ((event.get? "partial").bind contentBlocks).getD []
  match (blockAt content rawIndex).bind getExecToolCallCommand with
  | none => fallbackIndex
  | some commandAtContentIndex => (split.commands.idxOf? commandAtContentIndex).getD fallbackIndex

/-- The call that an event adds to, if it puts commands together. -/
def getSafeCombinedExecToolCallFromEventDelta (event : Json) : Option Split := do
  guard (readString (event.get? "type") = some "toolcall_delta")
  let content ← (event.get? "partial").bind contentBlocks
  let toolCall ← blockAt content (eventContentIndex event)
  guard (isExecToolCall toolCall)
  let args ← decodeToolCallArguments (event.get? "delta")
  let command ← onlyCommand args
  let commands ← splitSafeExecCommand command
  some ⟨commands, toolCall, (eventContentIndex event).toNat⟩

/-- A message of the event after its blocks have been rewritten, or its call been split. -/
def rewriteMessage (split : Option Split) (message : Json) : Json :=
  match applySafeExecSplitToMessage message with
  | some message => message
  | none => split.elim message (applySafeExecSplitAtContentIndex message)

/-- The event, about one of the commands. -/
def rewriteDelta (split : Split) (event : Json) : List (String × Json) → List (String × Json) :=
  fun fields =>
    let targetIndex := targetSplitCommandIndex event split
    let targetCommand := split.commands.getD targetIndex ""
    let fields := setOwn fields "delta"
      (encodeToolCallArgumentsLike (fields.lookup "delta") targetCommand)
    match fields.lookup "toolCall" with
    | some (.obj _) =>
      setOwn fields "toolCall"
        ((buildSplitToolCalls split.toolCall split.commands).getD targetIndex .null)
    | _ => fields

/-- The event with the calls in its messages split. -/
def rewriteSafeCombinedExecToolCallInEvent : Json → Json
  | .obj fields =>
    let deltaSplit := getSafeCombinedExecToolCallFromEventDelta (.obj fields)
    let fields := modifyOwn "message" (rewriteMessage deltaSplit)
      (modifyOwn "partial" (rewriteMessage deltaSplit) fields)
    match deltaSplit with
    | none => .obj fields
    | some split => .obj (rewriteDelta split (.obj fields) fields)
  | event => event

/-- An event as the wrapped stream delivers it; `none` where it is dropped. -/
def deliveredEvent (numberText : ℚ → String) (event : Json) : Option Json :=
  filterReasoningFromEvent numberText (rewriteSafeCombinedExecToolCallInEvent event)

end NemoClaw.KimiCompat
