import VirtualDisplay.Broker.Commands
import VirtualDisplay.Lib.CommandLine

/-!
# The arguments of the session helper

For what only a program in the user's session can do, the broker starts a helper there and passes
on what a command asks for as the helper's arguments.  The arguments are one text, which the
helper's run-time library splits again, and part of the text comes from the client: so every word
is put between quotes, and the quotes and backslashes in it are escaped (`broker_commands.cpp`).

`Requests` says what a command asks for, in terms of its text alone;
`helperArguments_split` that the helper gets exactly that.

## What is here

* `quoteBrokerArgument` — a word between quotes, with backslashes doubled in front of a quote only.
* `splitFrom_quoteBrokerArgumentFrom` — the rules of the run-time library take it apart again; there
  are two sets of them, which differ in what two quotes in a row mean, and both are covered
  (`Lib/CommandLine.lean`).
* `brokerLuidTextIsValid`, `brokerU32TextIsValid` — what the broker accepts as a number; the text is
  handed on, not the number.
* `helperArgumentsForBrokerCommand` — the whole text, from the command.

Characters are widened one by one, so bytes above 127 become characters of their own and keep no
meaning in UTF-8.
-/

set_option autoImplicit false

namespace VirtualDisplay

open CommandLine

/-! ## Quoting -/

/-- ASCII as UTF-16. -/
def widenAscii (text : CommandText) : WideString := text.map (·.toUInt16)

/-- The same of a text. -/
def wideOf (text : String) : WideString := widenAscii (bytesOf text)

/-- The loop, with the number of backslashes that are held back. -/
def quoteBrokerArgumentFrom (backslashes : Nat) : WideString → WideString
  | [] => List.replicate (backslashes * 2) kBackslash ++ [kQuote]
  | ch :: value =>
    if ch = kQuote then
      List.replicate (backslashes * 2 + 1) kBackslash ++ ch :: quoteBrokerArgumentFrom 0 value
    else if ch = kBackslash then quoteBrokerArgumentFrom (backslashes + 1) value
    else List.replicate backslashes kBackslash ++ ch :: quoteBrokerArgumentFrom 0 value

/-- An argument in quotes, with a backslash before what would end it. -/
def quoteBrokerArgument (value : WideString) : WideString :=
  kQuote :: quoteBrokerArgumentFrom 0 value

section

variable {doubledQuotes : Bool}

/-- Inside quotes the rest of a quoted value is read as it was, with the backslashes that were
held back before it. -/
theorem splitFrom_quoteBrokerArgumentFrom (value : WideString) {rest : WideString}
    (hrest : rest.head? ≠ some kQuote) (argument : WideString) (backslashes : Nat) :
    splitFrom doubledQuotes (some argument) true 0
        (quoteBrokerArgumentFrom backslashes value ++ rest) =
      splitFrom doubledQuotes (some (argument ++ List.replicate backslashes kBackslash ++ value))
        false 0 rest := by
  induction value generalizing argument backslashes with
  | nil =>
    rw [quoteBrokerArgumentFrom, List.append_assoc, splitFrom_backslashes, Nat.zero_add,
      Nat.mul_comm, List.singleton_append, splitFrom_closing argument backslashes hrest,
      List.append_nil]
  | cons ch value ih =>
    rw [quoteBrokerArgumentFrom]
    by_cases hquote : ch = kQuote
    · rw [if_pos hquote, List.append_assoc, splitFrom_backslashes, Nat.zero_add, Nat.mul_comm,
        List.cons_append, hquote, splitFrom_escaped, ih, List.replicate_zero]
      simp
    · rw [if_neg hquote]
      by_cases hbackslash : ch = kBackslash
      · rw [if_pos hbackslash, ih, List.replicate_succ', hbackslash]
        simp
      · rw [if_neg hbackslash, List.append_assoc, splitFrom_backslashes, Nat.zero_add,
          List.cons_append, splitFrom_other hbackslash hquote (Or.inl rfl), held_some, ih,
          List.replicate_zero]
        simp

theorem reads_quoteBrokerArgument (value : WideString) :
    Reads doubledQuotes (quoteBrokerArgument value) value := by
  intro rest hrest
  have hquote : rest.head? ≠ some kQuote := fun h ↦ absurd (hrest _ h) (by decide)
  rw [quoteBrokerArgument, List.cons_append, splitFrom_opening,
    splitFrom_quoteBrokerArgumentFrom value hquote]
  rfl

theorem split_quoted (words : List WideString) :
    split doubledQuotes (List.intercalate [kSpace] (words.map quoteBrokerArgument)) = words := by
  refine split_join ?_
  rw [List.forall₂_map_left_iff]
  exact List.forall₂_same.mpr fun word _ ↦ reads_quoteBrokerArgument word

end

/-! ## Words -/

/-- Nothing but blanks. -/
def IsBlank (gap : CommandText) : Prop := ∀ ch ∈ gap, ch = 0x20

/-- The text starts with the words, each behind blanks that may be missing before the first, and
goes on with the rest. -/
inductive Worded : CommandText → List CommandText → CommandText → Prop
  | nil (rest : CommandText) : Worded rest [] rest
  | cons {gap word text rest : CommandText} {words : List CommandText} (hgap : IsBlank gap)
      (hne : word ≠ []) (hword : 0x20 ∉ word) (hend : ∀ ch ∈ text.head?, ch = 0x20)
      (htext : Worded text words rest) : Worded (gap ++ word ++ text) (word :: words) rest

theorem ne_of_dropWhile_blank {text rest : CommandText} {ch : UInt8}
    (h : text.dropWhile (· == 0x20) = ch :: rest) : ch ≠ 0x20 := by
  have hhead := List.head?_dropWhile_not (· == (0x20 : UInt8)) text
  rw [h] at hhead
  simpa using hhead

theorem worded_splitBrokerWords (text : CommandText) (maxWords : Nat) :
    ∃ rest, Worded text (splitBrokerWords text maxWords).1 rest ∧
      rest.dropWhile (· == 0x20) =
        (splitBrokerWords text maxWords).2.dropWhile (· == 0x20) ∧
      ((splitBrokerWords text maxWords).1.length < maxWords → IsBlank rest) := by
  induction maxWords generalizing text with
  | zero => exact ⟨text, .nil text, rfl, fun h ↦ absurd h (Nat.not_lt_zero _)⟩
  | succ maxWords ih =>
    have hgap : IsBlank (text.takeWhile (· == 0x20)) := fun ch hch ↦ by
      simpa using List.mem_takeWhile_imp hch
    have hsplit : text.takeWhile (· == 0x20) ++ text.dropWhile (· == 0x20) = text :=
      List.takeWhile_append_dropWhile
    rw [splitBrokerWords]
    cases hafter : text.dropWhile (· == 0x20) with
    | nil =>
      rw [hafter, List.append_nil] at hsplit
      rw [hsplit] at hgap
      exact ⟨text, .nil text, hafter, fun _ ↦ hgap⟩
    | cons ch tail =>
      obtain ⟨rest, hworded, hrest, hblank⟩ := ih ((ch :: tail).dropWhile (· != 0x20))
      have hword : (ch :: tail).takeWhile (· != 0x20) ++ (ch :: tail).dropWhile (· != 0x20) =
        ch :: tail := List.takeWhile_append_dropWhile
      have hch := ne_of_dropWhile_blank hafter
      have hne : (ch :: tail).takeWhile (· != 0x20) ≠ [] := by
        rw [List.takeWhile_cons, if_pos (by simpa using hch)]
        exact List.cons_ne_nil _ _
      have hspace : 0x20 ∉ (ch :: tail).takeWhile (· != 0x20) := fun hmem ↦
        absurd (List.mem_takeWhile_imp hmem) (by decide)
      have hend : ∀ next ∈ ((ch :: tail).dropWhile (· != 0x20)).head?, next = 0x20 := by
        intro next hnext
        have hhead := List.head?_dropWhile_not (· != (0x20 : UInt8)) (ch :: tail)
        rw [hnext] at hhead
        simpa using hhead
      have htext : text.takeWhile (· == 0x20) ++ (ch :: tail).takeWhile (· != 0x20) ++
          (ch :: tail).dropWhile (· != 0x20) = text := by
        rw [List.append_assoc, hword, ← hafter, hsplit]
      have hcons := Worded.cons hgap hne hspace hend hworded
      rw [htext] at hcons
      exact ⟨rest, hcons, hrest, fun hlength ↦ hblank (Nat.lt_of_succ_lt_succ hlength)⟩

/-! ## What a command asks for -/

/-- Two numbers with a colon between them. -/
def brokerLuidTextIsValid (value : CommandText) : Bool :=
  match value.idxOf? 0x3a with
  | none => false
  | some separator =>
    if separator = 0 ∨ value.length ≤ separator + 1 then false
    else
      (parseBrokerI32 (value.take separator)).isSome &&
        (parseBrokerU32 (value.drop (separator + 1))).isSome

/-- A number. -/
def brokerU32TextIsValid (value : CommandText) : Bool := (parseBrokerU32 value).isSome

/-- What the helper is asked to do. -/
inductive HelperRequest where
  | diagnose
  | applyExtendedTopology
  | applyManifestTopology
  | queryColorProfiles
  | stressCaptureRemove (words : List CommandText)
  | associateColorProfile (luid targetId profile : CommandText) (advancedColor default : Bool)
  deriving DecidableEq, Repr

/-- The arguments that the helper is to get. -/
def HelperRequest.arguments : HelperRequest → List WideString
  | diagnose => [wideOf "--diagnose"]
  | applyExtendedTopology => [wideOf "--apply-extended-topology"]
  | applyManifestTopology => [wideOf "--apply-manifest-topology"]
  | queryColorProfiles => [wideOf "--query-color-profiles"]
  | stressCaptureRemove words => wideOf "--stress-capture-remove" :: words.map widenAscii
  | associateColorProfile luid targetId profile advancedColor default =>
    [wideOf "--associate-color-profile", widenAscii luid, widenAscii targetId,
        widenAscii profile] ++
      (if advancedColor then [wideOf "--advanced-color"] else []) ++
      (if default then [wideOf "--default"] else [])

/-- The two commands with arguments of their own. -/
def kHelperStress : CommandText := bytesOf "helper-stress-capture-remove "
def kHelperAssociate : CommandText := bytesOf "helper-associate-color-profile "

/-- What a command asks for, by its text. -/
inductive Requests : CommandText → HelperRequest → Prop
  | diagnose : Requests (bytesOf "helper-diagnose") .diagnose
  | applyExtendedTopology :
    Requests (bytesOf "helper-apply-extended-topology") .applyExtendedTopology
  | applyManifestTopology :
    Requests (bytesOf "helper-apply-manifest-topology") .applyManifestTopology
  | queryColorProfiles : Requests (bytesOf "helper-query-color-profiles") .queryColorProfiles
  | stressDefault : Requests (bytesOf "helper-stress-capture-remove") (.stressCaptureRemove [])
  | stress {payload rest : CommandText} {words : List CommandText}
      (hwords : Worded payload words rest) (hrest : IsBlank rest) (hlength : words.length = 4)
      (hnumbers : ∀ word ∈ words, (parseBrokerU32 word).isSome) :
    Requests (kHelperStress ++ payload) (.stressCaptureRemove words)
  | associate {payload luid targetId kind preference gap profile : CommandText}
      {advancedColor default : Bool}
      (hwords : Worded payload [luid, targetId, kind, preference] (gap ++ profile))
      (hgap : IsBlank gap) (hprofile : ∃ ch rest, profile = ch :: rest ∧ ch ≠ 0x20)
      (hluid : ∃ high low, luid = high ++ 0x3a :: low ∧ (parseBrokerI32 high).isSome ∧
        (parseBrokerU32 low).isSome)
      (htargetId : (parseBrokerU32 targetId).isSome)
      (hkind : kind = bytesOf (if advancedColor then "advanced" else "standard"))
      (hpreference : preference = bytesOf (if default then "default" else "nodefault")) :
    Requests (kHelperAssociate ++ payload)
      (.associateColorProfile luid targetId profile advancedColor default)

/-! ## The arguments -/

/-- Four numbers, each one an argument. -/
def stressArguments (payload : CommandText) : Option WideString :=
  let fields := (splitBrokerWords payload 5).1
  if fields.length ≠ 4 ∨ !fields.all brokerU32TextIsValid then none
  else
    some (fields.foldl
      (fun arguments field ↦ arguments ++ wideOf " " ++ quoteBrokerArgument (widenAscii field))
      (quoteBrokerArgument (wideOf "--stress-capture-remove")))

/-- The option is added if the word asks for it; a word that is neither of the two is refused. -/
def appendOption (arguments : WideString) (word on off : CommandText) (option : WideString) :
    Option WideString :=
  if word = on then some (arguments ++ option)
  else if word ≠ off then none
  else some arguments

/-- The adapter and the target are checked, the words are quoted, and the options are added that two
further words ask for. -/
def associateArguments (luid targetId kind preference profile : CommandText) :
    Option WideString :=
  if !brokerLuidTextIsValid luid || !brokerU32TextIsValid targetId then none
  else
    let arguments := quoteBrokerArgument (wideOf "--associate-color-profile") ++
      wideOf " " ++ quoteBrokerArgument (widenAscii luid) ++
      wideOf " " ++ quoteBrokerArgument (widenAscii targetId) ++
      wideOf " " ++ quoteBrokerArgument (widenAscii profile)
    match appendOption arguments kind (bytesOf "advanced") (bytesOf "standard")
        (wideOf " --advanced-color") with
    | none => none
    | some arguments =>
      appendOption arguments preference (bytesOf "default") (bytesOf "nodefault")
        (wideOf " --default")

/-- The command line that a command of the broker leads to. -/
def helperArgumentsForBrokerCommand (command : CommandText) : Option WideString :=
  if command = bytesOf "helper-diagnose" then some (wideOf "--diagnose")
  else if command = bytesOf "helper-apply-extended-topology" then
    some (wideOf "--apply-extended-topology")
  else if command = bytesOf "helper-apply-manifest-topology" then
    some (wideOf "--apply-manifest-topology")
  else if command = bytesOf "helper-query-color-profiles" then
    some (wideOf "--query-color-profiles")
  else if command = bytesOf "helper-stress-capture-remove" then
    some (wideOf "--stress-capture-remove")
  else if kHelperStress.isPrefixOf command then
    stressArguments (command.drop kHelperStress.length)
  else
    match commandFields kHelperAssociate command 4 with
    | some ([luid, targetId, kind, preference], profile) =>
      associateArguments luid targetId kind preference profile
    | _ => none

/-! ## What the helper gets -/

section

variable {doubledQuotes : Bool}

/-- An option of the helper needs no quotes. -/
theorem reads_option {text : String} (hne : wideOf text ≠ [])
    (hplain : (wideOf text).all isPlain = true) :
    Reads doubledQuotes (wideOf text) (wideOf text) := by
  obtain ⟨ch, rest, htext⟩ := List.exists_cons_of_ne_nil hne
  rw [htext] at hplain ⊢
  exact reads_plain hplain

theorem reads_optional {text argument : WideString} (asked : Bool)
    (h : Reads doubledQuotes text argument) :
    List.Forall₂ (Reads doubledQuotes) (if asked then [text] else [])
      (if asked then [argument] else []) := by
  cases asked
  · exact .nil
  · exact .cons h .nil

theorem foldl_fields (fields : List CommandText) (line : WideString) :
    fields.foldl
        (fun line field ↦ line ++ wideOf " " ++ quoteBrokerArgument (widenAscii field)) line =
      List.intercalate [kSpace]
        (line :: fields.map fun field ↦ quoteBrokerArgument (widenAscii field)) := by
  rw [← foldl_join, List.foldl_map]
  rfl

theorem split_option {text : String} (hne : wideOf text ≠ [])
    (hplain : (wideOf text).all isPlain = true) :
    CommandLine.split doubledQuotes (wideOf text) = [wideOf text] :=
  split_of_reads (reads_option hne hplain)

end

theorem split_stressArguments {payload : CommandText} {arguments : WideString}
    (h : stressArguments payload = some arguments) :
    ∃ words rest, Worded payload words rest ∧ IsBlank rest ∧ words.length = 4 ∧
      (∀ word ∈ words, (parseBrokerU32 word).isSome) ∧
      ∀ doubledQuotes, CommandLine.split doubledQuotes arguments =
        (HelperRequest.stressCaptureRemove words).arguments := by
  obtain ⟨rest, hworded, -, hblank⟩ := worded_splitBrokerWords payload 5
  rw [stressArguments] at h
  split at h
  · exact nomatch h
  · rename_i hvalid
    obtain ⟨hlength, hnumbers⟩ := not_or.mp hvalid
    have hline := Option.some.inj h
    rw [foldl_fields] at hline
    refine ⟨_, rest, hworded, hblank (by omega), by omega, ?_, ?_⟩
    · intro word hword
      have hall : ((splitBrokerWords payload 5).1.all brokerU32TextIsValid) = true := by
        simpa using hnumbers
      exact List.all_eq_true.mp hall word hword
    · intro doubledQuotes
      rw [← hline]
      refine split_join (.cons (reads_quoteBrokerArgument _) ?_)
      rw [List.forall₂_map_left_iff, List.forall₂_map_right_iff]
      exact List.forall₂_same.mpr fun word _ ↦ reads_quoteBrokerArgument _

theorem brokerLuidTextIsValid_iff {luid : CommandText} (h : brokerLuidTextIsValid luid = true) :
    ∃ high low, luid = high ++ 0x3a :: low ∧ (parseBrokerI32 high).isSome ∧
      (parseBrokerU32 low).isSome := by
  rw [brokerLuidTextIsValid] at h
  split at h
  · exact nomatch h
  · rename_i separator hseparator
    split at h
    · exact nomatch h
    · rw [Bool.and_eq_true] at h
      obtain ⟨hlt, hcolon, -⟩ := List.idxOf?_eq_some_iff.mp hseparator
      refine ⟨_, _, ?_, h⟩
      rw [← hcolon, ← List.drop_eq_getElem_cons hlt, List.take_append_drop]

theorem appendOption_eq_some {line arguments option : WideString} {word on off : CommandText}
    (h : appendOption line word on off ([kSpace] ++ option) = some arguments) :
    ∃ asked : Bool, word = (if asked then on else off) ∧
      arguments = (if asked then [option] else []).foldl
        (fun line text ↦ line ++ [kSpace] ++ text) line := by
  rw [appendOption] at h
  split_ifs at h with hon hoff
  · refine ⟨true, hon, ?_⟩
    rw [← Option.some.inj h, ← List.append_assoc]
    rfl
  · exact ⟨false, not_not.mp hoff, (Option.some.inj h).symm⟩

theorem split_associateArguments {luid targetId kind preference profile : CommandText}
    {arguments : WideString}
    (h : associateArguments luid targetId kind preference profile = some arguments) :
    (∃ high low, luid = high ++ 0x3a :: low ∧ (parseBrokerI32 high).isSome ∧
        (parseBrokerU32 low).isSome) ∧
      (parseBrokerU32 targetId).isSome ∧
      ∃ advancedColor default,
        kind = bytesOf (if advancedColor then "advanced" else "standard") ∧
        preference = bytesOf (if default then "default" else "nodefault") ∧
        ∀ doubledQuotes, CommandLine.split doubledQuotes arguments =
          (HelperRequest.associateColorProfile luid targetId profile advancedColor
            default).arguments := by
  rw [associateArguments] at h
  split at h
  · exact nomatch h
  · rename_i hvalid
    simp only [Bool.or_eq_true, Bool.not_eq_true', not_or, Bool.not_eq_false] at hvalid
    refine ⟨brokerLuidTextIsValid_iff hvalid.1, hvalid.2, ?_⟩
    dsimp only at h
    split at h
    · exact nomatch h
    · rename_i line hline
      have hadvanced : wideOf " --advanced-color" = [kSpace] ++ wideOf "--advanced-color" := by
        decide
      have hdefault : wideOf " --default" = [kSpace] ++ wideOf "--default" := by decide
      rw [hadvanced] at hline
      rw [hdefault] at h
      obtain ⟨advancedColor, hkind, hline⟩ := appendOption_eq_some hline
      obtain ⟨default, hpreference, harguments⟩ := appendOption_eq_some h
      have hbase : quoteBrokerArgument (wideOf "--associate-color-profile") ++
          wideOf " " ++ quoteBrokerArgument (widenAscii luid) ++
          wideOf " " ++ quoteBrokerArgument (widenAscii targetId) ++
          wideOf " " ++ quoteBrokerArgument (widenAscii profile) =
            [quoteBrokerArgument (widenAscii luid), quoteBrokerArgument (widenAscii targetId),
              quoteBrokerArgument (widenAscii profile)].foldl
                (fun line text ↦ line ++ [kSpace] ++ text)
                (quoteBrokerArgument (wideOf "--associate-color-profile")) := rfl
      refine ⟨advancedColor, default, ?_, ?_, ?_⟩
      · cases advancedColor <;> exact hkind
      · cases default <;> exact hpreference
      · intro doubledQuotes
        rw [harguments, hline, hbase, ← List.foldl_append, ← List.foldl_append, foldl_join]
        refine split_join (.cons (reads_quoteBrokerArgument _) ?_)
        refine .cons (reads_quoteBrokerArgument _) (.cons (reads_quoteBrokerArgument _) ?_)
        exact .cons (reads_quoteBrokerArgument _) (List.rel_append
          (reads_optional advancedColor (reads_option (by decide) (by decide)))
          (reads_optional default (reads_option (by decide) (by decide))))

theorem commandFields_eq_some {name command displayName : CommandText}
    {fields : List CommandText} {count : Nat}
    (h : commandFields name command count = some (fields, displayName)) :
    ∃ payload gap, command = name ++ payload ∧ Worded payload fields (gap ++ displayName) ∧
      IsBlank gap ∧ ∃ ch rest, displayName = ch :: rest ∧ ch ≠ 0x20 := by
  rw [commandFields] at h
  split at h
  · exact nomatch h
  · rename_i hbegin
    obtain ⟨payload, rfl⟩ : name <+: command := by
      rw [← List.isPrefixOf_iff_prefix]
      simpa using hbegin
    rw [List.drop_left] at h
    obtain ⟨rest, hworded, hrest, -⟩ := worded_splitBrokerWords payload count
    dsimp only at h
    split at h
    · exact nomatch h
    · rename_i hfields
      obtain ⟨rfl, rfl⟩ := Prod.mk.inj (Option.some.inj h)
      refine ⟨payload, rest.takeWhile (· == 0x20), rfl, ?_, ?_, ?_⟩
      · rw [← hrest, List.takeWhile_append_dropWhile]
        exact hworded
      · intro ch hch
        simpa using List.mem_takeWhile_imp hch
      · cases hname : (splitBrokerWords payload count).2.dropWhile (· == 0x20) with
        | nil =>
          rw [hname] at hfields
          exact absurd (Or.inr rfl) hfields
        | cons ch rest => exact ⟨ch, rest, rfl, ne_of_dropWhile_blank hname⟩

/-- **The helper gets what the command asks for.**  A line of quoted words is split into the words;
and when a command is accepted, its helper's arguments are those of what its text asks for. -/
theorem helperArguments_split :
    (∀ (doubledQuotes : Bool) (words : List WideString),
      CommandLine.split doubledQuotes
        (List.intercalate [kSpace] (words.map quoteBrokerArgument)) = words) ∧
      ∀ (command : CommandText) (arguments : WideString),
        helperArgumentsForBrokerCommand command = some arguments →
          ∃ request, Requests command request ∧
            ∀ doubledQuotes, CommandLine.split doubledQuotes arguments = request.arguments := by
  refine ⟨fun _ words ↦ split_quoted words, fun command arguments h ↦ ?_⟩
  rw [helperArgumentsForBrokerCommand] at h
  split_ifs at h with hdiagnose hextended hmanifest hcolor hstress hbegin
  · rw [hdiagnose, ← Option.some.inj h]
    exact ⟨_, .diagnose, fun _ ↦ split_option (by decide) (by decide)⟩
  · rw [hextended, ← Option.some.inj h]
    exact ⟨_, .applyExtendedTopology, fun _ ↦ split_option (by decide) (by decide)⟩
  · rw [hmanifest, ← Option.some.inj h]
    exact ⟨_, .applyManifestTopology, fun _ ↦ split_option (by decide) (by decide)⟩
  · rw [hcolor, ← Option.some.inj h]
    exact ⟨_, .queryColorProfiles, fun _ ↦ split_option (by decide) (by decide)⟩
  · rw [hstress, ← Option.some.inj h]
    exact ⟨_, .stressDefault, fun _ ↦ split_option (by decide) (by decide)⟩
  · obtain ⟨payload, rfl⟩ := List.isPrefixOf_iff_prefix.mp hbegin
    rw [List.drop_left] at h
    obtain ⟨words, rest, hwords, hrest, hlength, hnumbers, hsplit⟩ := split_stressArguments h
    exact ⟨_, .stress hwords hrest hlength hnumbers, hsplit⟩
  · split at h
    · rename_i luid targetId kind preference profile hfields
      obtain ⟨payload, gap, rfl, hwords, hgap, hprofile⟩ := commandFields_eq_some hfields
      obtain ⟨hluid, htargetId, advancedColor, default, hkind, hpreference, hsplit⟩ :=
        split_associateArguments h
      exact ⟨_, .associate hwords hgap hprofile hluid htargetId hkind hpreference, hsplit⟩
    · exact nomatch h

/-- A profile whose name has quotes and ends with a backslash. -/
theorem helperArguments_split_profile :
    ∃ request,
      Requests (bytesOf "helper-associate-color-profile -1:123 44 advanced default a \"b\" c\\")
        request ∧
      ∀ doubledQuotes, CommandLine.split doubledQuotes
        (wideOf "\"--associate-color-profile\" \"-1:123\" \"44\" " ++
          wideOf "\"a \\\"b\\\" c\\\\\" --advanced-color --default") = request.arguments :=
  helperArguments_split.2 _ _ (by decide)

end VirtualDisplay
