import TecEngine.Gui.Console
import Mathlib.Data.List.DropRight

/-!
# The console's command line

When a line is entered, `Console::Draw` cuts the input buffer at its NUL, trims the trailing
spaces, and hands a line that starts with `/` to the slash handler without the `/`; any other
non-empty line names a command by its longest prefix without a space, and the command gets the
rest of the line after that prefix and one space. The client's slash handler (`main.cpp`)
takes the text before the first space as the command of a `ChatCommandEvent`, and splits the
text after it with `SplitString`, a `std::sregex_token_iterator` over the regex `" "` with
submatch -1: the text before each space, then the text after the last space when it is not
empty, or the whole text when there is no space.

A trimmed line does not end with a space, so the slash handler's text does not either, and
its split loses nothing: the command and the arguments, each without a space, joined with a
space each, give back the text (`submitInput_parse`).

## Main definitions

* `trimSpaces`, `scanCommand`, `submitInput`: `Draw`'s processing of an entered line
* `splitString`, `slashHandler`: the slash handler

## Main results

* `intercalate_splitTokens`, `splitString_spec`: the split of a text that does not end with a
  space gives it back
* `submitInput_parse`: what a line invokes, and that its parse loses nothing
-/

namespace TecEngine

/-! ## `Console::Draw` -/

/-- The trimming loop of `Draw`: drop the trailing spaces. -/
def trimSpaces (s : List Char) : List Char :=
  s.rdropWhile (· = ' ')

/-- The scan of `Draw` for a command: the characters up to the first space or the end, and the
rest, after one space when there is one. -/
def scanCommand : List Char → List Char × List Char
  | [] => ([], [])
  | ' ' :: rest => ([], rest)
  | c :: rest => (c :: (scanCommand rest).1, (scanCommand rest).2)

/-- What `Draw` does with an entered line. -/
inductive DrawAction
  /-- nothing, for an empty line -/
  | none
  /-- `slash_handler(args)` -/
  | slash (args : List Char)
  /-- the command of that name is looked up and, when found, called with `args` -/
  | command (name args : List Char)
  deriving DecidableEq, Repr

/-- The line `Draw` processes: the input buffer up to its NUL, trimmed. -/
def enteredLine (inputBuf : List Char) : List Char :=
  trimSpaces (inputBuf.takeWhile (· ≠ '\x00'))

/-- `Draw` on the input buffer `inputBuf` after `InputText` reports an entered line. -/
def submitInput (inputBuf : List Char) : DrawAction :=
  match enteredLine inputBuf with
  | [] => .none
  | c :: args => if c = '/' then .slash args else .command (scanCommand (c :: args)).1 (scanCommand (c :: args)).2

/-! ## The slash handler -/

/-- The tokens of `std::sregex_token_iterator` over the regex `" "` with submatch -1, once the
text has a space, with `cur` the token so far: the text before each space, and at the end the
token so far when it is not empty. -/
def splitTokens : List Char → List Char → List (List Char)
  | cur, [] => if cur = [] then [] else [cur]
  | cur, ' ' :: rest => cur :: splitTokens [] rest
  | cur, c :: rest => splitTokens (cur ++ [c]) rest

/-- `SplitString(args)`: with no space the whole text, even an empty one, is the one token. -/
def splitString (s : List Char) : List (List Char) :=
  if ' ' ∈ s then splitTokens [] s else [s]

/-- A `ChatCommandEvent`. -/
structure ChatCommandEvent where
  command : List Char
  args : List (List Char)
  deriving DecidableEq, Repr

/-- The slash handler: the text up to the NUL, its command before the first space
(`find_first_of(" ")`, the whole text when there is none), and the split of the text after that
space. -/
def slashHandler (args : List Char) : ChatCommandEvent :=
  let message := args.takeWhile (· ≠ '\x00')
  match message.indexOf? ' ' with
  | none => ⟨message, []⟩
  | some offset =>
    ⟨message.take offset,
      if offset < message.length then splitString (message.drop (offset + 1)) else []⟩

/-! ## The split loses nothing -/

/-- The tokens of a split have no space, when the token so far has none. -/
theorem not_mem_of_mem_splitTokens {cur s t : List Char} (hcur : ' ' ∉ cur)
    (ht : t ∈ splitTokens cur s) : ' ' ∉ t := by
  induction cur, s using splitTokens.induct with
  | case1 => simp [splitTokens] at ht
  | case2 cur hne =>
    simp only [splitTokens, hne, if_false, List.mem_singleton] at ht
    exact ht ▸ hcur
  | case3 cur rest ih =>
    rw [splitTokens, List.mem_cons] at ht
    rcases ht with rfl | ht
    exacts [hcur, ih (List.not_mem_nil _) ht]
  | case4 cur c rest hc ih =>
    rw [splitTokens] at ht
    exacts [ih (by simp [hcur, Ne.symm hc]) ht, hc]

/-- **The split of a text that does not end with a space gives it back**: its first token, then
a space before each other token, is the token so far and the text. -/
theorem splitTokens_join {cur s : List Char} (hne : s = [] → cur ≠ [])
    (hlast : s.getLast? ≠ some ' ') :
    ∃ t ts, splitTokens cur s = t :: ts ∧ t ++ (ts.map (' ' :: ·)).flatten = cur ++ s := by
  induction cur, s using splitTokens.induct with
  | case1 => exact absurd rfl (hne rfl)
  | case2 cur hcur => exact ⟨cur, [], by simp [splitTokens, hcur], by simp⟩
  | case3 cur rest ih =>
    have hrest : rest ≠ [] := by rintro rfl; simp at hlast
    have hlast' : rest.getLast? ≠ some ' ' := by
      rw [List.getLast?_cons, List.getLast?_eq_getLast rest hrest] at hlast
      rwa [List.getLast?_eq_getLast rest hrest]
    obtain ⟨t, ts, hsplit, hjoin⟩ := ih (fun h => absurd h hrest) hlast'
    exact ⟨cur, t :: ts, by rw [splitTokens, hsplit], by simp [hjoin]⟩
  | case4 cur c rest hc ih =>
    obtain ⟨t, ts, hsplit, hjoin⟩ := ih (fun _ => by simp)
      (by cases rest with
          | nil => simp
          | cons _ _ => simpa [List.getLast?_cons] using hlast)
    exact ⟨t, ts, by rw [splitTokens, hsplit]; exact hc, by simp [hjoin]⟩

/-- `SplitString` of a non-empty text that does not end with a space: tokens without a space,
the first, then a space before each other, giving back the text. -/
theorem splitString_spec {s : List Char} (hne : s ≠ []) (hlast : s.getLast? ≠ some ' ') :
    (∀ t ∈ splitString s, ' ' ∉ t) ∧
      ∃ t ts, splitString s = t :: ts ∧ t ++ (ts.map (' ' :: ·)).flatten = s := by
  unfold splitString
  split_ifs with hs
  · obtain ⟨t, ts, hsplit, hjoin⟩ := @splitTokens_join [] s (fun h => absurd h hne) hlast
    exact ⟨fun t ht => not_mem_of_mem_splitTokens (List.not_mem_nil _) ht, t, ts, hsplit, hjoin⟩
  · exact ⟨by simpa using hs, s, [], rfl, by simp⟩

example : splitString "give  sword 2".toList = ["give".toList, [], "sword".toList, "2".toList] := by
  decide

/-- The text up to the first space, the space, and the rest. -/
theorem indexOf?_space_split {l : List Char} {i : Nat} (h : l.indexOf? ' ' = some i) :
    l.take i ++ ' ' :: l.drop (i + 1) = l ∧ ' ' ∉ l.take i ∧ i < l.length := by
  induction l generalizing i with
  | nil => cases h
  | cons c l ih =>
    rw [List.indexOf?_cons] at h
    by_cases hc : c = ' '
    · subst hc
      cases h
      simp
    · simp only [beq_iff_eq, hc, if_false, Option.map_eq_some'] at h
      obtain ⟨j, hj, rfl⟩ := h
      obtain ⟨h₁, h₂, h₃⟩ := ih hj
      exact ⟨by simp [h₁], by simp [hc, h₂, Ne.symm hc], by simp [h₃]⟩

/-- **The slash handler loses nothing** of a text without NUL that does not end with a space:
its command and its arguments have no space, and the command, then a space before each
argument, is the text. -/
theorem slashHandler_spec {s : List Char} (hnul : '\x00' ∉ s) (hlast : s.getLast? ≠ some ' ') :
    ' ' ∉ (slashHandler s).command ∧ (∀ a ∈ (slashHandler s).args, ' ' ∉ a) ∧
      (slashHandler s).command ++ ((slashHandler s).args.map (' ' :: ·)).flatten = s := by
  have hmsg : s.takeWhile (· ≠ '\x00') = s :=
    List.takeWhile_eq_self_iff.mpr fun c hc => decide_eq_true fun h => hnul (h ▸ hc)
  unfold slashHandler
  rw [hmsg]
  cases hi : s.indexOf? ' ' with
  | none =>
    simp only [hi]
    exact ⟨fun h => by simpa using List.indexOf?_eq_none_iff.mp hi ' ' h, by simp, by simp⟩
  | some i =>
    obtain ⟨hsplit, hcmd, hlt⟩ := indexOf?_space_split hi
    rw [← hsplit] at hlast
    have hrest : s.drop (i + 1) ≠ [] := by
      intro h
      simp [h] at hlast
    have hlast' : (s.drop (i + 1)).getLast? ≠ some ' ' := by
      rw [List.getLast?_eq_getLast _ hrest]
      simpa [List.getLast?_append, List.getLast?_cons, List.getLast?_eq_getLast _ hrest] using hlast
    obtain ⟨htoks, t, ts, htt, hjoin⟩ := splitString_spec hrest hlast'
    simp only [hi, hlt, if_true]
    refine ⟨hcmd, htoks, ?_⟩
    rw [htt, List.map_cons, List.flatten_cons, List.cons_append, hjoin, hsplit]

/-! ## What a line invokes -/

/-- The longest prefix of a line without a space. -/
def commandName (t : List Char) : List Char := t.takeWhile (· ≠ ' ')

/-- The rest of a line after its longest prefix without a space and one space. -/
def commandArgs (t : List Char) : List Char := t.drop ((commandName t).length + 1)

/-- The scan of `Draw` takes the longest prefix without a space, and the rest after it and one
space. -/
theorem scanCommand_eq (t : List Char) : scanCommand t = (commandName t, commandArgs t) := by
  induction t using scanCommand.induct with
  | case1 => rfl
  | case2 rest => simp [scanCommand, commandName, commandArgs]
  | case3 c rest hc ih =>
    simp only [commandName, commandArgs] at ih
    simp [scanCommand, commandName, commandArgs, ih, List.takeWhile_cons, show c ≠ ' ' from hc]

/-- With a space, the command, a space and the rest give back the line. -/
theorem scanCommand_join {t : List Char} (h : ' ' ∈ t) :
    (scanCommand t).1 ++ ' ' :: (scanCommand t).2 = t := by
  induction t using scanCommand.induct with
  | case1 => cases h
  | case2 rest => rfl
  | case3 c rest hc ih =>
    simp only [scanCommand, List.cons_append, ih (by simpa [Ne.symm hc] using h)]

/-- Without a space, the command is the whole line and the rest is empty. -/
theorem scanCommand_of_space_not_mem {t : List Char} (h : ' ' ∉ t) : scanCommand t = (t, []) := by
  induction t using scanCommand.induct with
  | case1 => rfl
  | case2 rest => simp at h
  | case3 c rest hc ih => simp [scanCommand, ih (by simpa using (h ∘ List.mem_cons_of_mem c))]

/-- A line cut at its NUL and trimmed has no NUL and does not end with a space. -/
theorem enteredLine_spec (inputBuf : List Char) :
    '\x00' ∉ enteredLine inputBuf ∧ (enteredLine inputBuf).getLast? ≠ some ' ' := by
  constructor
  · intro h
    simpa using List.mem_takeWhile_imp ((List.rdropWhile_prefix _ _).subset h)
  · intro h
    have hne : enteredLine inputBuf ≠ [] := by rintro h'; rw [h'] at h; cases h
    rw [List.getLast?_eq_getLast _ hne, Option.some.injEq] at h
    exact List.rdropWhile_last_not (fun x => decide (x = ' ')) _ hne (decide_eq_true h)

/-- **What a line invokes, and that its parse loses nothing.** Cut at its NUL and trimmed of its
trailing spaces, an empty line invokes nothing; a line `/s` hands `s` to the slash handler,
whose command and arguments have no space and give back `s`, the command then a space before
each argument; any other line invokes the command named by its longest prefix without a space,
with the rest of the line after that prefix and one space, empty when the line has no space,
and the command, a space and that rest give back a line with a space. -/
theorem submitInput_parse (inputBuf : List Char) :
    (enteredLine inputBuf = [] → submitInput inputBuf = .none) ∧
    (∀ s, enteredLine inputBuf = '/' :: s → submitInput inputBuf = .slash s ∧
      ' ' ∉ (slashHandler s).command ∧ (∀ a ∈ (slashHandler s).args, ' ' ∉ a) ∧
      (slashHandler s).command ++ ((slashHandler s).args.map (' ' :: ·)).flatten = s) ∧
    (enteredLine inputBuf ≠ [] → (enteredLine inputBuf).head? ≠ some '/' →
      submitInput inputBuf =
        .command (commandName (enteredLine inputBuf)) (commandArgs (enteredLine inputBuf)) ∧
      (' ' ∈ enteredLine inputBuf →
        commandName (enteredLine inputBuf) ++ ' ' :: commandArgs (enteredLine inputBuf) =
          enteredLine inputBuf) ∧
      (' ' ∉ enteredLine inputBuf → commandArgs (enteredLine inputBuf) = [])) := by
  have hsub : submitInput inputBuf = match enteredLine inputBuf with
      | [] => .none
      | c :: rest => if c = '/' then .slash rest else .command (scanCommand (c :: rest)).1
          (scanCommand (c :: rest)).2 := rfl
  obtain ⟨hnul, hlast⟩ := enteredLine_spec inputBuf
  refine ⟨fun h => by rw [hsub, h], fun r h => ?_, fun hne hhead => ?_⟩
  · have hr : '\x00' ∉ r ∧ r.getLast? ≠ some ' ' := by
      rw [h] at hnul hlast
      refine ⟨fun hr => hnul (List.mem_cons_of_mem _ hr), ?_⟩
      cases r with
      | nil => simp
      | cons _ _ => simpa [List.getLast?_cons] using hlast
    exact ⟨by rw [hsub, h]; rfl, slashHandler_spec hr.1 hr.2⟩
  · obtain ⟨c, r, hcr⟩ := List.exists_cons_of_ne_nil hne
    have hc : c ≠ '/' := fun h => hhead (by rw [hcr, h]; rfl)
    refine ⟨by rw [hsub, hcr]; simp only [hc, if_false, ← hcr, scanCommand_eq], fun h => ?_,
      fun h => ?_⟩
    · simpa [scanCommand_eq] using scanCommand_join h
    · simpa [scanCommand_eq] using congrArg Prod.snd (scanCommand_of_space_not_mem h)

end TecEngine
