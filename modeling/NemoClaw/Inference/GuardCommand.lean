import Mathlib.Tactic

/- The command that the request guard of the llama.cpp image starts.

The guard accepts a command line only if it is the server with options that the guard
knows. One pass walks the options with their values; a second one looks for the required
options and markers at every place of the line. A text is a list of bytes.

Correspondence (request-guard/main.go ↔ Lean): functions keep the source's names;
`scanOptions`, `scanExactOption` and `scanExactMarker` are the loops of
`validateSupportedCommandOptions`, `requireExactCommandOption` and
`requireExactCommandMarker`. Of `guardConfig` the fields that the command depends on are
kept, and what the `flag` package makes of the guard's own arguments is a parameter.

What is proved:
  1. `validateLlamaServerCommand_iff` — the two passes accept the commands of the grammar
     and no others.
  2. `parseConfig_eq_ok` — what a line must be for the guard to accept it.
-/
namespace NemoClaw.RequestGuard

abbrev Bytes := List UInt8

/-- A text of the source. -/
def lit (s : String) : Bytes := s.toByteArray.data.toList

/-- `strings.HasPrefix(text, start)`. -/
def hasPrefix (text start : Bytes) : Bool := start.isPrefixOf text

def dashes : Bytes := lit "--"

/-- The bytes of an error's text, with what stands at each `%s`. -/
def errorf (parts : List Bytes) : Bytes := parts.flatten

def llamaServerPath : Bytes := lit "/usr/local/bin/llama-server"
def llamaServerAPIKeyPath : Bytes := lit "/run/secrets/llama-cpp-api-key"
def maximumBodyBytes : ℤ := 64 * 1024 * 1024
def maximumHeaderBytes : ℤ := 1024 * 1024
def maximumOutputTokens : ℤ := 1024 * 1024
def maximumTimeoutSeconds : ℤ := 24 * 60 * 60

structure GuardConfig where
  listenHost : Bytes
  listenPort : ℤ
  upstreamHost : Bytes
  upstreamPort : ℤ
  maxRequestBodyBytes : ℤ
  maxRequestHeaderBytes : ℤ
  maxOutputTokens : ℤ
  requestTimeout : ℤ
  shutdownTimeout : ℤ

/-- `strconv.Itoa` and `strconv.FormatInt` to base 10. -/
def formatInt (n : ℤ) : Bytes := lit (toString n)

def scanExactOption (option expected : Bytes) (count : ℕ) : List Bytes → Except Bytes ℕ
  | [] => .ok count
  | value :: rest =>
    if value = option ∧ rest.head? ≠ some expected then
      .error (errorf [lit "llama-server ", option, lit " must be ", expected])
    else if hasPrefix value (option ++ lit "=") then
      .error (errorf [lit "llama-server ", option, lit " must use a separate exact value"])
    else scanExactOption option expected (if value = option then count + 1 else count) rest

def exactlyOnce (option : Bytes) (count : ℕ) : Except Bytes Unit :=
  if count ≠ 1 then
    .error (errorf [lit "llama-server command must declare ", option, lit " exactly once"])
  else .ok ()

def requireExactCommandOption (command : List Bytes) (option expected : Bytes) :
    Except Bytes Unit := do
  exactlyOnce option (← scanExactOption option expected 0 command)

def scanExactMarker (option : Bytes) (count : ℕ) : List Bytes → Except Bytes ℕ
  | [] => .ok count
  | value :: rest =>
    if hasPrefix value (option ++ lit "=") then
      .error (errorf [lit "llama-server ", option, lit " does not accept a value"])
    else scanExactMarker option (if value = option then count + 1 else count) rest

def requireExactCommandMarker (command : List Bytes) (option : Bytes) : Except Bytes Unit := do
  exactlyOnce option (← scanExactMarker option 0 command)

/-- The options that the guard knows, and whether each takes a value. -/
def allowed : List (Bytes × Bool) :=
  [ (lit "--alias", true), (lit "--api-key-file", true), (lit "--batch-size", true),
    (lit "--cache-type-k", true), (lit "--cache-type-v", true), (lit "--ctx-size", true),
    (lit "--flash-attn", true), (lit "--gpu-layers", true), (lit "--host", true),
    (lit "--metrics", false), (lit "--model", true), (lit "--no-agent", false),
    (lit "--no-mmproj", false), (lit "--no-slots", false), (lit "--no-ui", false),
    (lit "--n-predict", true), (lit "--parallel", true), (lit "--port", true),
    (lit "--sleep-idle-seconds", true), (lit "--timeout", true), (lit "--ubatch-size", true) ]

def scanOptions (seen : List Bytes) : List Bytes → Except Bytes (List Bytes)
  | [] => .ok seen
  | option :: rest =>
    match allowed.lookup option with
    | none =>
      .error (errorf [lit "llama-server option ", option,
        lit " is not supported by the request guard"])
    | some takesValue =>
      if option ∈ seen then
        .error (errorf [lit "llama-server command must declare ", option, lit " at most once"])
      else if takesValue = false then scanOptions (option :: seen) rest
      else
        match rest with
        | [] => .error (errorf [lit "llama-server ", option, lit " requires one value"])
        | value :: rest =>
          if hasPrefix value dashes then
            .error (errorf [lit "llama-server ", option, lit " requires one value"])
          else scanOptions (option :: seen) rest

def validateSupportedCommandOptions (command : List Bytes) : Except Bytes Unit := do
  let seen ← scanOptions [] command
  if lit "--model" ∉ seen then
    .error (lit "llama-server command must declare --model exactly once")
  else .ok ()

/-- The options that must have the configured values. -/
def requiredOptions (config : GuardConfig) : List (Bytes × Bytes) :=
  [ (lit "--host", config.upstreamHost), (lit "--port", formatInt config.upstreamPort),
    (lit "--api-key-file", llamaServerAPIKeyPath),
    (lit "--n-predict", formatInt config.maxOutputTokens) ]

def requiredMarkers : List Bytes :=
  [lit "--no-agent", lit "--no-mmproj", lit "--no-slots", lit "--no-ui"]

def validateLlamaServerCommand (command : List Bytes) (config : GuardConfig) :
    Except Bytes Unit :=
  if command.head? ≠ some llamaServerPath then
    .error (errorf [lit "request guard command must start with ", llamaServerPath])
  else do
    validateSupportedCommandOptions command.tail
    (requiredOptions config).forM fun required =>
      requireExactCommandOption command.tail required.1 required.2
    requiredMarkers.forM fun marker => requireExactCommandMarker command.tail marker

structure Item where
  option : Bytes
  value : Option Bytes

def Item.words (item : Item) : List Bytes := item.option :: item.value.toList

def commandOf (items : List Item) : List Bytes := items.flatMap Item.words

/-- A known option that takes a value has one, which does not start with dashes; a known
marker has none. -/
def Item.Supported (item : Item) : Prop :=
  match item.value with
  | none => allowed.lookup item.option = some false
  | some value => allowed.lookup item.option = some true ∧ hasPrefix value dashes = false

structure Grammar (config : GuardConfig) (items : List Item) : Prop where
  supported : ∀ item ∈ items, item.Supported
  once : (items.map Item.option).Nodup
  model : lit "--model" ∈ items.map Item.option
  host : ⟨lit "--host", some config.upstreamHost⟩ ∈ items
  port : ⟨lit "--port", some (formatInt config.upstreamPort)⟩ ∈ items
  apiKeyFile : ⟨lit "--api-key-file", some llamaServerAPIKeyPath⟩ ∈ items
  nPredict : ⟨lit "--n-predict", some (formatInt config.maxOutputTokens)⟩ ∈ items
  noAgent : ⟨lit "--no-agent", none⟩ ∈ items
  noMmproj : ⟨lit "--no-mmproj", none⟩ ∈ items
  noSlots : ⟨lit "--no-slots", none⟩ ∈ items
  noUi : ⟨lit "--no-ui", none⟩ ∈ items

variable {option : Bytes} {takesValue : Bool} {items : List Item}

section

variable (h : allowed.lookup option = some takesValue)
include h

lemma mem_allowed : (option, takesValue) ∈ allowed := by
  rw [List.lookup_eq_some_iff] at h
  obtain ⟨before, after, heq, -⟩ := h
  rw [heq]; simp

lemma dashes_of_allowed : hasPrefix option dashes := by
  have hall : ∀ known ∈ allowed, hasPrefix known.1 dashes := by decide +kernel
  exact hall _ (mem_allowed h)

lemma not_glued {option' : Bytes} {takesValue' : Bool}
    (h' : allowed.lookup option' = some takesValue') :
    hasPrefix option (option' ++ lit "=") = false := by
  have hall : ∀ known ∈ allowed, ∀ known' ∈ allowed,
      hasPrefix known.1 (known'.1 ++ lit "=") = false := by decide +kernel
  exact hall _ (mem_allowed h) _ (mem_allowed h')

lemma dashes_of_hasPrefix {text tail : Bytes} (htext : hasPrefix text (option ++ tail)) :
    hasPrefix text dashes := by
  have hoption := dashes_of_allowed h
  unfold hasPrefix at *
  rw [List.isPrefixOf_iff_prefix] at *
  exact (hoption.trans (List.prefix_append _ _)).trans htext

end

lemma value_apart {value : Bytes} (hvalue : hasPrefix value dashes = false)
    (h : allowed.lookup option = some takesValue) :
    value ≠ option ∧ hasPrefix value (option ++ lit "=") = false := by
  constructor
  · rintro rfl
    rw [dashes_of_allowed h] at hvalue; cases hvalue
  · cases hglued : hasPrefix value (option ++ lit "=") with
    | false => rfl
    | true => rw [dashes_of_hasPrefix h hglued] at hvalue; cases hvalue

lemma Item.Supported.lookup {item : Item} (h : item.Supported) :
    allowed.lookup item.option = some item.value.isSome := by
  obtain ⟨option, value⟩ := item
  cases value with
  | none => exact h
  | some value => exact h.1

/-- These items make a command, each with an option of its own that was not seen before. -/
structure Fresh (seen : List Bytes) (items : List Item) : Prop where
  supported : ∀ item ∈ items, item.Supported
  once : (items.map Item.option).Nodup
  unseen : ∀ item ∈ items, item.option ∉ seen

lemma Fresh.cons {seen : List Bytes} {item : Item} (h : Fresh (item.option :: seen) items)
    (hsupported : item.Supported) (hunseen : item.option ∉ seen) : Fresh seen (item :: items) where
  supported := List.forall_mem_cons.mpr ⟨hsupported, h.supported⟩
  once := by
    rw [List.map_cons, List.nodup_cons]
    refine ⟨?_, h.once⟩
    intro hmem
    obtain ⟨other, hother, heq⟩ := List.mem_map.mp hmem
    exact h.unseen other hother (by simp [heq])
  unseen := List.forall_mem_cons.mpr
    ⟨hunseen, fun other hother hmem => h.unseen other hother (List.mem_cons_of_mem _ hmem)⟩

lemma Fresh.tail {seen : List Bytes} {item : Item} (h : Fresh seen (item :: items)) :
    Fresh (item.option :: seen) items where
  supported := (List.forall_mem_cons.mp h.supported).2
  once := (List.nodup_cons.mp h.once).2
  unseen := by
    intro other hother hmem
    rcases List.mem_cons.mp hmem with heq | hmem
    · exact (List.nodup_cons.mp h.once).1 (heq ▸ List.mem_map_of_mem hother)
    · exact h.unseen other (List.mem_cons_of_mem _ hother) hmem

/-- A command that the first pass goes through is made of items. -/
lemma items_of_scanOptions {seen command seen' : List Bytes}
    (h : scanOptions seen command = .ok seen') :
    ∃ items, command = commandOf items ∧ Fresh seen items ∧
      seen' = (items.map Item.option).reverse ++ seen := by
  fun_induction scanOptions seen command with
  | case1 seen => cases h; exact ⟨[], rfl, ⟨by simp, by simp, by simp⟩, by simp⟩
  | case4 seen option rest hunseen hmarker ih =>
    obtain ⟨items, rfl, hfresh, rfl⟩ := ih h
    exact ⟨⟨option, none⟩ :: items, rfl, hfresh.cons hmarker hunseen, by simp⟩
  | case7 seen option takesValue hlookup hunseen htakes value rest hvalue ih =>
    obtain ⟨items, rfl, hfresh, rfl⟩ := ih h
    obtain rfl : takesValue := by simpa using htakes
    have hsupported : Item.Supported ⟨option, some value⟩ := ⟨hlookup, by simpa using hvalue⟩
    exact ⟨⟨option, some value⟩ :: items, rfl, hfresh.cons hsupported hunseen, by simp⟩
  | _ => cases h

lemma scanOptions_commandOf {seen : List Bytes} (h : Fresh seen items) :
    scanOptions seen (commandOf items) = .ok ((items.map Item.option).reverse ++ seen) := by
  induction items generalizing seen with
  | nil => rfl
  | cons item items ih =>
    have hrest := ih h.tail
    have hsupported := h.supported item (by simp)
    have hunseen := h.unseen item (by simp)
    obtain ⟨option, value⟩ := item
    have hreverse : (List.map Item.option (⟨option, value⟩ :: items)).reverse ++ seen =
        (items.map Item.option).reverse ++ option :: seen := by simp
    rw [hreverse, ← hrest]
    cases value with
    | none =>
      have hlookup : allowed.lookup option = some false := hsupported
      show scanOptions seen (option :: commandOf items) = _
      rw [scanOptions.eq_def seen]; simp [hlookup, hunseen]
    | some value =>
      obtain ⟨hlookup, hvalue⟩ := hsupported
      have hlookup' : allowed.lookup option = some true := hlookup
      show scanOptions seen (option :: value :: commandOf items) = _
      rw [scanOptions.eq_def seen]; simp [hlookup', hunseen, hvalue]

lemma validateSupportedCommandOptions_iff (command : List Bytes) :
    validateSupportedCommandOptions command = .ok () ↔
      ∃ items, command = commandOf items ∧ Fresh [] items ∧
        lit "--model" ∈ items.map Item.option := by
  unfold validateSupportedCommandOptions
  constructor
  · intro h
    cases hscan : scanOptions [] command with
    | error e => rw [hscan] at h; cases h
    | ok seen =>
      obtain ⟨items, rfl, hfresh, rfl⟩ := items_of_scanOptions hscan
      refine ⟨items, rfl, hfresh, ?_⟩
      by_contra hmodel
      have hseen : lit "--model" ∉ (items.map Item.option).reverse ++ [] := by simpa using hmodel
      rw [hscan] at h
      change (if _ then _ else _) = _ at h
      rw [if_pos hseen] at h; cases h
  · rintro ⟨items, rfl, hfresh, hmodel⟩
    have hseen : ¬ lit "--model" ∉ (items.map Item.option).reverse ++ [] := by simpa using hmodel
    rw [scanOptions_commandOf hfresh]; exact if_neg hseen

/-! ## The second pass -/

def countOption (option : Bytes) (items : List Item) : ℕ :=
  items.countP (·.option = option)

/-- A word that is neither the option nor one with a value glued to it is passed over. -/
lemma scanExactOption_skip {expected word : Bytes} {rest : List Bytes} (hne : word ≠ option)
    (hglued : hasPrefix word (option ++ lit "=") = false) (count : ℕ) :
    scanExactOption option expected count (word :: rest) =
      scanExactOption option expected count rest := by
  rw [scanExactOption, if_neg (by simp [hne]), if_neg (by simp [hglued]), if_neg hne]

lemma scanExactMarker_skip {word : Bytes} {rest : List Bytes} (hne : word ≠ option)
    (hglued : hasPrefix word (option ++ lit "=") = false) (count : ℕ) :
    scanExactMarker option count (word :: rest) = scanExactMarker option count rest := by
  rw [scanExactMarker, if_neg (by simp [hglued]), if_neg hne]

lemma scanExactOption_commandOf {expected : Bytes} (hoption : allowed.lookup option = some true)
    (hitems : ∀ item ∈ items, item.Supported) (count n : ℕ) :
    scanExactOption option expected count (commandOf items) = .ok n ↔
      (∀ item ∈ items, item.option = option → item.value = some expected) ∧
        n = count + countOption option items := by
  induction items generalizing count with
  | nil => simp [commandOf, scanExactOption, countOption, eq_comm]
  | cons item items ih =>
    obtain ⟨hitem, hrest⟩ := List.forall_mem_cons.mp hitems
    have hglued := not_glued hitem.lookup hoption
    obtain ⟨other, value⟩ := item
    cases value with
    | none =>
      have hlookup : allowed.lookup other = some false := hitem
      have hne : other ≠ option := by
        rintro rfl
        rw [hoption] at hlookup; cases hlookup
      show scanExactOption option expected count (other :: commandOf items) = _ ↔ _
      rw [scanExactOption_skip hne hglued, ih hrest]; simp [hne, countOption]
    | some value =>
      obtain ⟨hvalue, hvalueGlued⟩ := value_apart hitem.2 hoption
      have hskip : ∀ count, scanExactOption option expected count (value :: commandOf items) =
          scanExactOption option expected count (commandOf items) :=
        scanExactOption_skip hvalue hvalueGlued
      show scanExactOption option expected count (other :: value :: commandOf items) = _ ↔ _
      by_cases hother : other = option
      · by_cases hexpected : value = expected
        · rw [scanExactOption, if_neg (by simp [hexpected]), if_neg (by simpa using hglued),
            if_pos hother, hskip, ih hrest]
          simp [hother, hexpected, countOption]; omega
        · rw [scanExactOption, if_pos ⟨hother, by simpa using hexpected⟩]
          simp [hother, hexpected]
      · rw [scanExactOption_skip hother hglued, hskip, ih hrest]; simp [hother, countOption]

lemma scanExactMarker_commandOf (hoption : allowed.lookup option = some takesValue)
    (hitems : ∀ item ∈ items, item.Supported) (count : ℕ) :
    scanExactMarker option count (commandOf items) = .ok (count + countOption option items) := by
  induction items generalizing count with
  | nil => simp [commandOf, scanExactMarker, countOption]
  | cons item items ih =>
    obtain ⟨hitem, hrest⟩ := List.forall_mem_cons.mp hitems
    have hglued := not_glued hitem.lookup hoption
    have hvalues : ∀ count, scanExactMarker option count (item.value.toList ++ commandOf items) =
        .ok (count + countOption option items) := by
      intro count
      obtain ⟨other, value⟩ := item
      cases value with
      | none => exact ih hrest count
      | some value =>
        obtain ⟨hvalue, hvalueGlued⟩ := value_apart hitem.2 hoption
        exact (scanExactMarker_skip hvalue hvalueGlued count).trans (ih hrest count)
    show scanExactMarker option count (item.option :: (item.value.toList ++ commandOf items)) = _
    by_cases hother : item.option = option
    · rw [scanExactMarker, if_neg (by simpa using hglued), if_pos hother, hvalues]
      simp [hother, countOption]; omega
    · rw [scanExactMarker_skip hother hglued, hvalues]; simp [hother, countOption]

lemma exactlyOnce_iff {count : ℕ} : exactlyOnce option count = .ok () ↔ count = 1 := by
  unfold exactlyOnce
  split <;> simp_all

lemma countOption_eq_one (h : (items.map Item.option).Nodup) :
    countOption option items = 1 ↔ option ∈ items.map Item.option := by
  have hcount : countOption option items = (items.map Item.option).count option := by
    rw [countOption, List.count, List.countP_map]
    congr 1
    funext item; simp [beq_eq_decide]
  rw [hcount]
  constructor
  · intro hone; exact List.count_pos_iff.mp (by omega)
  · exact List.count_eq_one_of_mem h

lemma requireExactCommandOption_iff {expected : Bytes}
    (hoption : allowed.lookup option = some true) (h : Fresh [] items) :
    requireExactCommandOption (commandOf items) option expected = .ok () ↔
      ⟨option, some expected⟩ ∈ items := by
  unfold requireExactCommandOption
  constructor
  · intro hrun
    cases hscan : scanExactOption option expected 0 (commandOf items) with
    | error e => rw [hscan] at hrun; cases hrun
    | ok n =>
      rw [hscan] at hrun
      obtain ⟨hvalues, rfl⟩ := (scanExactOption_commandOf hoption h.supported 0 n).mp hscan
      have hone := exactlyOnce_iff.mp hrun
      rw [Nat.zero_add, countOption_eq_one h.once] at hone
      obtain ⟨item, hitem, heq⟩ := List.mem_map.mp hone
      have hvalue := hvalues item hitem heq
      obtain ⟨other, value⟩ := item
      cases heq
      cases hvalue; exact hitem
  · intro hitem
    have hvalues : ∀ other ∈ items, other.option = option → other.value = some expected := by
      intro other hother heq
      have hsame := List.inj_on_of_nodup_map h.once hother hitem heq
      rw [hsame]
    have hone : countOption option items = 1 :=
      (countOption_eq_one h.once).mpr (List.mem_map_of_mem hitem)
    have hscan := (scanExactOption_commandOf hoption h.supported 0 _).mpr ⟨hvalues, rfl⟩
    rw [hscan, hone]; rfl

lemma requireExactCommandMarker_iff (hoption : allowed.lookup option = some false)
    (h : Fresh [] items) :
    requireExactCommandMarker (commandOf items) option = .ok () ↔ ⟨option, none⟩ ∈ items := by
  unfold requireExactCommandMarker
  rw [scanExactMarker_commandOf hoption h.supported]
  show exactlyOnce _ _ = _ ↔ _
  rw [exactlyOnce_iff, Nat.zero_add, countOption_eq_one h.once]
  constructor
  · intro hmem
    obtain ⟨item, hitem, heq⟩ := List.mem_map.mp hmem
    have hlookup := (h.supported item hitem).lookup
    rw [heq, hoption] at hlookup
    obtain ⟨other, value⟩ := item
    cases value with
    | none => cases heq; exact hitem
    | some value => simp at hlookup
  · exact fun hitem => List.mem_map_of_mem hitem

lemma seq_eq_ok {α : Type} {x : Except Bytes Unit} {y : Except Bytes α} {a : α} :
    (do x; y) = .ok a ↔ x = .ok () ∧ y = .ok a := by
  cases x with
  | error e => exact ⟨fun h => (nomatch h), fun h => (nomatch h.1)⟩
  | ok => exact ⟨fun h => ⟨rfl, h⟩, fun h => h.2⟩

lemma forM_eq_ok {α : Type} {xs : List α} {f : α → Except Bytes Unit} :
    xs.forM f = .ok () ↔ ∀ x ∈ xs, f x = .ok () := by
  induction xs with
  | nil => exact ⟨fun _ _ hx => absurd hx List.not_mem_nil, fun _ => rfl⟩
  | cons x xs ih =>
    show (do f x; xs.forM f) = _ ↔ _
    rw [seq_eq_ok, ih, List.forall_mem_cons]

lemma requiredOptions_allowed (config : GuardConfig) :
    ∀ required ∈ requiredOptions config, allowed.lookup required.1 = some true := by
  have hall : ∀ option ∈ [lit "--host", lit "--port", lit "--api-key-file", lit "--n-predict"],
      allowed.lookup option = some true := by decide +kernel
  intro required hrequired
  exact hall required.1 (List.mem_map_of_mem (f := Prod.fst) hrequired)

lemma requiredMarkers_allowed :
    ∀ marker ∈ requiredMarkers, allowed.lookup marker = some false := by decide +kernel

lemma checks_iff (command : List Bytes) (config : GuardConfig) :
    (do
      validateSupportedCommandOptions command
      (requiredOptions config).forM fun required =>
        requireExactCommandOption command required.1 required.2
      requiredMarkers.forM fun marker => requireExactCommandMarker command marker) = .ok () ↔
      ∃ items, command = commandOf items ∧ Grammar config items := by
  rw [seq_eq_ok, seq_eq_ok, forM_eq_ok, forM_eq_ok, validateSupportedCommandOptions_iff]
  constructor
  · rintro ⟨⟨items, rfl, hfresh, hmodel⟩, hoptions, hmarkers⟩
    have hoption : ∀ required ∈ requiredOptions config, ⟨required.1, some required.2⟩ ∈ items :=
      fun required hrequired =>
        (requireExactCommandOption_iff (requiredOptions_allowed config _ hrequired) hfresh).mp
          (hoptions required hrequired)
    have hmarker : ∀ marker ∈ requiredMarkers, ⟨marker, none⟩ ∈ items := fun marker hmem =>
      (requireExactCommandMarker_iff (requiredMarkers_allowed _ hmem) hfresh).mp
        (hmarkers marker hmem)
    simp only [requiredOptions, requiredMarkers, List.forall_mem_cons] at hoption hmarker
    obtain ⟨hhost, hport, hkey, hpredict, -⟩ := hoption
    obtain ⟨hagent, hmmproj, hslots, hui, -⟩ := hmarker
    exact ⟨items, rfl, hfresh.supported, hfresh.once, hmodel, hhost, hport, hkey, hpredict, hagent,
      hmmproj, hslots, hui⟩
  · rintro ⟨items, rfl, h⟩
    have hfresh : Fresh [] items := ⟨h.supported, h.once, by simp⟩
    refine ⟨⟨items, rfl, hfresh, h.model⟩, ?_, ?_⟩
    · intro required hrequired
      rw [requireExactCommandOption_iff (requiredOptions_allowed config _ hrequired) hfresh]
      revert required
      simp only [requiredOptions, List.forall_mem_cons]
      exact ⟨h.host, h.port, h.apiKeyFile, h.nPredict, by simp⟩
    · intro marker hmarker
      rw [requireExactCommandMarker_iff (requiredMarkers_allowed _ hmarker) hfresh]
      revert marker
      simp only [requiredMarkers, List.forall_mem_cons]
      exact ⟨h.noAgent, h.noMmproj, h.noSlots, h.noUi, by simp⟩

/-- The guard accepts the server with a sequence of known options, each once, where an option
that takes a value has one that starts with no dashes and a marker has none, where the model
is named and the required options and markers are there as configured; and nothing else. -/
theorem validateLlamaServerCommand_iff (command : List Bytes) (config : GuardConfig) :
    validateLlamaServerCommand command config = .ok () ↔
      ∃ items, command = llamaServerPath :: commandOf items ∧ Grammar config items := by
  unfold validateLlamaServerCommand
  cases command with
  | nil => rw [if_pos (by simp)]; exact ⟨fun h => (nomatch h), fun ⟨_, h, _⟩ => (nomatch h)⟩
  | cons server rest =>
    by_cases hserver : server = llamaServerPath
    · subst hserver
      rw [if_neg (by simp), List.tail_cons, checks_iff]; simp
    · rw [if_pos (by simpa using hserver)]
      refine ⟨fun h => (nomatch h), ?_⟩
      rintro ⟨items, h, -⟩; exact absurd (List.cons.inj h).1 hserver

/-- What the `flag` package reads: the flags, and how many arguments are left. -/
structure Flags where
  listenHost : Bytes
  listenPort : ℤ
  upstreamHost : Bytes
  upstreamPort : ℤ
  maxRequestBodyBytes : ℤ
  maxRequestHeaderBytes : ℤ
  maxOutputTokens : ℤ
  timeoutSeconds : ℤ
  shutdownTimeoutSeconds : ℤ
  nArg : ℕ

def positiveBounded (value maximum : ℤ) (name : String) : Except Bytes Unit :=
  if value < 1 ∨ maximum < value then
    .error (errorf [lit name, lit " must be between 1 and ", formatInt maximum])
  else .ok ()

def refuse (condition : Prop) [Decidable condition] (message : String) : Except Bytes Unit :=
  if condition then .error (lit message) else .ok ()

/-- `time.Second`, in nanoseconds. -/
def second : ℤ := 1000000000

def Flags.config (flags : Flags) : GuardConfig where
  listenHost := flags.listenHost
  listenPort := flags.listenPort
  upstreamHost := flags.upstreamHost
  upstreamPort := flags.upstreamPort
  maxRequestBodyBytes := flags.maxRequestBodyBytes
  maxRequestHeaderBytes := flags.maxRequestHeaderBytes
  maxOutputTokens := flags.maxOutputTokens
  requestTimeout := flags.timeoutSeconds * second
  shutdownTimeout := flags.shutdownTimeoutSeconds * second

def checkFlags (flags : Flags) : Except Bytes Unit := do
  refuse (flags.nArg ≠ 0) "request guard received an argument before '--'"
  refuse (flags.listenHost ≠ lit "0.0.0.0") "request guard listen host must be 0.0.0.0"
  refuse (flags.upstreamHost ≠ lit "127.0.0.1") "request guard upstream host must be 127.0.0.1"
  positiveBounded flags.listenPort 65535 "request guard listen port"
  positiveBounded flags.upstreamPort 65535 "request guard upstream port"
  refuse (flags.listenPort = flags.upstreamPort)
    "request guard listen and upstream ports must differ"
  positiveBounded flags.maxRequestBodyBytes maximumBodyBytes "maximum request body bytes"
  positiveBounded flags.maxRequestHeaderBytes maximumHeaderBytes "maximum request header bytes"
  positiveBounded flags.maxOutputTokens maximumOutputTokens "maximum output tokens"
  positiveBounded flags.timeoutSeconds maximumTimeoutSeconds "request timeout seconds"
  positiveBounded flags.shutdownTimeoutSeconds maximumTimeoutSeconds "shutdown timeout seconds"

def parseConfig (parseFlags : List Bytes → Except Bytes Flags) (args : List Bytes) :
    Except Bytes (GuardConfig × List Bytes) :=
  match args.idxOf? dashes with
  | none => .error (lit "request guard requires '--' before the llama-server command")
  | some separator =>
    match parseFlags (args.take separator) with
    | .error e => .error (errorf [lit "invalid request guard arguments: ", e])
    | .ok flags => do
      checkFlags flags
      let command := args.drop (separator + 1)
      validateLlamaServerCommand command flags.config
      return (flags.config, command)

lemma positiveBounded_iff {value maximum : ℤ} {name : String} :
    positiveBounded value maximum name = .ok () ↔ 1 ≤ value ∧ value ≤ maximum := by
  unfold positiveBounded
  split
  case isTrue h => exact ⟨fun h' => (nomatch h'), fun h' => by omega⟩
  case isFalse h => exact ⟨fun _ => by omega, fun _ => rfl⟩

lemma refuse_iff {condition : Prop} [Decidable condition] {message : String} :
    refuse condition message = .ok () ↔ ¬ condition := by
  unfold refuse
  split
  case isTrue h => exact ⟨fun h' => (nomatch h'), fun h' => absurd h h'⟩
  case isFalse h => exact ⟨fun _ => h, fun _ => rfl⟩

def Flags.Valid (flags : Flags) : Prop :=
  flags.nArg = 0 ∧ flags.listenHost = lit "0.0.0.0" ∧ flags.upstreamHost = lit "127.0.0.1" ∧
    flags.listenPort ∈ Set.Icc 1 65535 ∧ flags.upstreamPort ∈ Set.Icc 1 65535 ∧
    flags.listenPort ≠ flags.upstreamPort ∧
    flags.maxRequestBodyBytes ∈ Set.Icc 1 maximumBodyBytes ∧
    flags.maxRequestHeaderBytes ∈ Set.Icc 1 maximumHeaderBytes ∧
    flags.maxOutputTokens ∈ Set.Icc 1 maximumOutputTokens ∧
    flags.timeoutSeconds ∈ Set.Icc 1 maximumTimeoutSeconds ∧
    flags.shutdownTimeoutSeconds ∈ Set.Icc 1 maximumTimeoutSeconds

lemma checkFlags_iff {flags : Flags} : checkFlags flags = .ok () ↔ flags.Valid := by
  unfold checkFlags Flags.Valid
  simp only [seq_eq_ok, refuse_iff, positiveBounded_iff, not_not, ne_eq, Set.mem_Icc]

lemma idxOf?_dashes {own command : List Bytes} (hown : dashes ∉ own) :
    (own ++ dashes :: command).idxOf? dashes = some own.length := by
  induction own with
  | nil => simp [List.idxOf?_cons]
  | cons arg own ih =>
    obtain ⟨hne, hown⟩ := not_or.mp (mt List.mem_cons.mpr hown)
    rw [List.cons_append, List.idxOf?_cons, if_neg (by simpa using Ne.symm hne), ih hown]; rfl

/-- What the guard accepts: before the first dashes its own arguments, whose flags are within
their bounds, and after them a command of the grammar. -/
theorem parseConfig_eq_ok (parseFlags : List Bytes → Except Bytes Flags) (args command : List Bytes)
    (config : GuardConfig) :
    parseConfig parseFlags args = .ok (config, command) ↔
      ∃ own flags items, args = own ++ dashes :: command ∧ dashes ∉ own ∧
        parseFlags own = .ok flags ∧ flags.Valid ∧ config = flags.config ∧
        command = llamaServerPath :: commandOf items ∧ Grammar config items := by
  constructor
  · intro h
    by_cases hdashes : dashes ∈ args
    case neg => rw [parseConfig, List.idxOf?_eq_none_iff.mpr hdashes] at h; cases h
    obtain ⟨own, command', rfl, hown⟩ := List.eq_append_cons_of_mem hdashes
    rw [parseConfig, idxOf?_dashes hown] at h
    simp only [List.take_left, List.drop_length_add_append] at h
    cases hflags : parseFlags own with
    | error e => rw [hflags] at h; cases h
    | ok flags =>
      simp only [hflags, seq_eq_ok, checkFlags_iff] at h
      obtain ⟨hvalid, hcommand, hresult⟩ := h
      cases hresult
      unfold validateLlamaServerCommand at hcommand
      split at hcommand
      case isTrue => cases hcommand
      case isFalse hserver =>
      obtain ⟨items, hitems, hgrammar⟩ := (checks_iff _ _).mp hcommand
      refine ⟨own, flags, items, rfl, hown, hflags, hvalid, rfl, ?_, hgrammar⟩
      rw [← hitems, List.cons_head?_tail (not_not.mp hserver)]
  · rintro ⟨own, flags, items, rfl, hown, hflags, hvalid, rfl, rfl, hgrammar⟩
    rw [parseConfig, idxOf?_dashes hown]
    simp only [List.take_left, List.drop_length_add_append, hflags, seq_eq_ok, checkFlags_iff]
    refine ⟨hvalid, ?_, rfl⟩
    show validateLlamaServerCommand (llamaServerPath :: commandOf items) _ = _
    rw [validateLlamaServerCommand, if_neg (by simp), List.tail_cons]
    exact (checks_iff _ _).mpr ⟨items, rfl, hgrammar⟩

end NemoClaw.RequestGuard
