import TecEngine.Gui.Commands

/-!
# The client's console commands

`main` registers four commands of its own on the console, after the constructor's: `exit`
quits, `msg` sends the text of its argument as a chat message, `lua` runs it in the Lua
state, and `connect` splits it with `SplitString` and, when there are at least two tokens,
connects to the second as the user named by the first. The slash handler emits the
`ChatCommandEvent` of its text and, when the connection has a client id, sends it to the
server too.

`connect` reads its words from `SplitString`, which gives a token for the text between any
two spaces: a line with two spaces after the user name connects to the empty address, and
the address typed after them is ignored (`connect_second_word`).

## Main definitions

* `ClientAction`, `clientAction`: what the lambdas of `main` do with a call the console passes
  out
* `Console.addMainCommands`, `mainCommands`: `main`'s registrations, and the commands of its
  console
* `Console.clientDraw`: `Draw` on an entered line, then `main`'s code

## Main results

* `Console.clientDraw_external`: a line naming a command of `main` echoes it and calls the
  command with the rest of the line
* `connect_second_word`: `connect` connects to the text between the first and the second
  space after the user name
-/

namespace TecEngine

/-- What `main`'s console commands and slash handler do outside the console. -/
inductive ClientAction
  /-- `os.Quit()` -/
  | quit
  /-- `connection.SendChatMessage(message)` -/
  | sendChatMessage (message : List Char)
  /-- `lua_sys->ExecuteString(message)` -/
  | executeString (message : List Char)
  /-- `connection.Connect(ip)`, and a login as `username` once connected -/
  | connect (ip username : List Char)
  /-- the event emitted locally, and sent to the server when `send` -/
  | chatCommand (event : ChatCommandEvent) (send : Bool)
  deriving DecidableEq, Repr

/-- The `connect` command: the text up to the NUL split by `SplitString`, and with at least
two tokens a `Connect` to the second as the user named by the first. -/
def connectCommand (args : List Char) : Option ClientAction :=
  match splitString (args.takeWhile (· ≠ '\x00')) with
  | username :: ip :: _ => some (.connect ip username)
  | _ => none

/-- The lambdas `main` registers, on what the console passes out, with `clientId` the
connection's `GetClientID()`. -/
def clientAction (clientId : Nat) : ConsoleEffect → Option ClientAction
  | .slash args => some (.chatCommand (slashHandler args) (clientId != 0))
  | .external action args =>
    if action = "exit" then some .quit
    else if action = "msg" then some (.sendChatMessage (args.takeWhile (· ≠ '\x00')))
    else if action = "lua" then some (.executeString (args.takeWhile (· ≠ '\x00')))
    else if action = "connect" then connectCommand args
    else none

namespace Console

/-- `main`'s registrations on its console, in its order. -/
def addMainCommands (c : Console) : Console :=
  c.addConsoleCommand "exit".toList "exit : Exit from TEC" (.external "exit")
    |>.addConsoleCommand "msg".toList "msg : Send a message to all clients." (.external "msg")
    |>.addConsoleCommand "lua".toList "lua : Execute a string in lua" (.external "lua")
    |>.addConsoleCommand "connect".toList
      "connect [username][ip] : Connect to a server [ip] with the provided [username]"
      (.external "connect")

end Console

/-- The commands of `main`'s console: the constructor's four and `main`'s four. Prints keep
them, so they are the commands of the console from `main`'s registrations on. -/
def mainCommands : StdMap (CommandFunc × String) (List Char) :=
  Console.new.addMainCommands.commands

example : mainCommands.map (·.1) = ["clear".toList, "cmdlist".toList, "connect".toList,
    "echo".toList, "exit".toList, "help".toList, "lua".toList, "msg".toList] := by
  decide

/-! ## A line at the client's console -/

section Client

variable (defaultColor : ImVec4) (clientId : Nat)

/-- `Draw` on an entered line, then the call of `main`'s code on what it passes out. -/
def Console.clientDraw (c : Console) (inputBuf : List Char) : Option (Console × Option ClientAction) :=
  (c.draw defaultColor inputBuf).map fun r => (r.1, r.2.bind (clientAction clientId))

/-- The scan of `Draw` on a name without a space, a space and a rest. -/
theorem scanCommand_append_space {name : List Char} (hname : ' ' ∉ name) (args : List Char) :
    scanCommand (name ++ ' ' :: args) = (name, args) := by
  induction name with
  | nil => rfl
  | cons c name ih =>
    rw [List.mem_cons, not_or] at hname
    simp [scanCommand, Ne.symm hname.1, ih hname.2]

/-- An entered line of a name without a space that does not start with `/`, a space and a
rest names that command with that rest. -/
theorem submitInput_of_enteredLine {inputBuf name args : List Char}
    (hline : enteredLine inputBuf = name ++ ' ' :: args) (hname : ' ' ∉ name)
    (hslash : name.head? ≠ some '/') : submitInput inputBuf = .command name args := by
  unfold submitInput
  rw [hline]
  cases name with
  | nil => rfl
  | cons c name =>
    have hc : c ≠ '/' := fun h => hslash (by rw [h]; rfl)
    rw [List.cons_append]
    dsimp only
    rw [if_neg hc, ← List.cons_append, scanCommand_append_space hname]

namespace Console

/-- **A line naming a command of `main`** on a buffer that holds the latest lines of a history
`lines` echoes the name with `]`, keeps the commands, and calls the command with the rest of
the line. -/
theorem clientDraw_external {c : Console} {lines : List (ImVec4 × String)}
    (h : c.buf.items = lines.reverse.take 4096) {inputBuf name args : List Char}
    {action help : String} (hin : submitInput inputBuf = .command name args)
    (hfind : c.commands.find name = some (.external action, help)) :
    ∃ c', c.clientDraw defaultColor clientId inputBuf =
        some (c', clientAction clientId (.external action args)) ∧ c'.commands = c.commands ∧
      c'.buf.items = (lines ++ [(white, cString ((']' :: name).take 1023))]).reverse.take 4096 := by
  obtain ⟨c', hc', hcmd, hitems⟩ := draw_last_lines defaultColor h inputBuf
  rw [drawCalls_of_find defaultColor hin hfind] at hc' hitems
  exact ⟨c', by rw [clientDraw, hc']; rfl, hcmd, by simpa [commandCalls, printedAfter_cons,
    ConsoleOp.entry] using hitems⟩

end Console

end Client

/-! ## `connect` -/

/-- The token so far runs over a text without a space. -/
theorem splitTokens_append {cur u : List Char} (hu : ' ' ∉ u) (s : List Char) :
    splitTokens cur (u ++ s) = splitTokens (cur ++ u) s := by
  induction u generalizing cur with
  | nil => simp
  | cons c u ih =>
    rw [List.mem_cons, not_or] at hu
    simp [splitTokens, Ne.symm hu.1, ih hu.2]

/-- `connect`'s split of a user name, a space, and an address followed by the end of the text
or by a space: a `Connect` to the address as that user. -/
theorem connectCommand_words {username ip rest : List Char} (hnul : '\x00' ∉ username ++ ' ' :: (ip ++ rest))
    (hu : ' ' ∉ username) (hip : ' ' ∉ ip) (hend : rest = [] → ip ≠ [])
    (hrest : rest = [] ∨ ∃ r, rest = ' ' :: r) :
    connectCommand (username ++ ' ' :: (ip ++ rest)) = some (.connect ip username) := by
  have hsplit : splitString (username ++ ' ' :: (ip ++ rest)) = username :: splitTokens ip rest := by
    rw [splitString, if_pos (by simp), splitTokens_append hu, List.nil_append, splitTokens,
      splitTokens_append hip, List.nil_append]
  have hmsg : (username ++ ' ' :: (ip ++ rest)).takeWhile (· ≠ '\x00') = username ++ ' ' :: (ip ++ rest) :=
    List.takeWhile_eq_self_iff.mpr fun c hc => decide_eq_true fun h => hnul (h ▸ hc)
  rw [connectCommand, hmsg, hsplit]
  rcases hrest with rfl | ⟨r, rfl⟩
  · rw [splitTokens, if_neg (hend rfl)]
  · rw [splitTokens]

/-- **`connect` connects to the text between the first and the second space after the user
name**: on a console with `main`'s commands, an entered line of `connect`, a space, a user
name, a space, and an address without a space followed by the end of the line or by a
space, echoes `]connect` and connects to that address as that user. With two spaces after
the user name, the address is empty. -/
theorem connect_second_word (defaultColor : ImVec4) (clientId : Nat) {c : Console}
    {lines : List (ImVec4 × String)} (h : c.buf.items = lines.reverse.take 4096)
    (hcmd : c.commands = mainCommands) {inputBuf username ip rest : List Char}
    (hline : enteredLine inputBuf = "connect".toList ++ ' ' :: (username ++ ' ' :: (ip ++ rest)))
    (hu : ' ' ∉ username) (hip : ' ' ∉ ip) (hrest : rest = [] ∨ ∃ r, rest = ' ' :: r) :
    ∃ c', c.clientDraw defaultColor clientId inputBuf = some (c', some (.connect ip username)) ∧
      c'.commands = c.commands ∧
      c'.buf.items = (lines ++ [(Console.white, "]connect")]).reverse.take 4096 := by
  obtain ⟨hnul, hlast⟩ := enteredLine_spec inputBuf
  rw [hline] at hnul hlast
  have hend : rest = [] → ip ≠ [] := by
    rintro rfl rfl
    simp [List.getLast?_cons, List.getLast?_append] at hlast
  obtain ⟨c', hc', hcmd', hitems⟩ := Console.clientDraw_external defaultColor clientId h
    (submitInput_of_enteredLine hline (by decide) (by decide))
    (by rw [hcmd]; decide : c.commands.find "connect".toList = some (.external "connect",
      "connect [username][ip] : Connect to a server [ip] with the provided [username]"))
  refine ⟨c', ?_, hcmd', by rw [hitems]; rfl⟩
  rw [hc', clientAction, if_neg (by decide), if_neg (by decide), if_neg (by decide), if_pos rfl,
    connectCommand_words (fun h => hnul (List.mem_append_right _ (List.mem_cons_of_mem _ h)))
      hu hip hend hrest]

/-- A line with two spaces after the user name connects to the empty address. -/
theorem connect_second_word_two_spaces :
    (Console.new.addMainCommands.buf.items = ([] : List (ImVec4 × String)).reverse.take 4096 ∧
      Console.new.addMainCommands.commands = mainCommands ∧
      enteredLine "connect alice  10.0.0.1".toList =
        "connect".toList ++ ' ' :: ("alice".toList ++ ' ' :: ([] ++ " 10.0.0.1".toList)) ∧
      ' ' ∉ "alice".toList ∧ ' ' ∉ ([] : List Char) ∧
      (" 10.0.0.1".toList = [] ∨ ∃ r, " 10.0.0.1".toList = ' ' :: r)) ∧
    ∃ c', Console.new.addMainCommands.clientDraw Console.white 0 "connect alice  10.0.0.1".toList =
        some (c', some (.connect [] "alice".toList)) ∧
      c'.commands = Console.new.addMainCommands.commands ∧
      c'.buf.items = ([] ++ [(Console.white, "]connect")]).reverse.take 4096 :=
  ⟨⟨rfl, rfl, by decide, by decide, by decide, .inr ⟨_, rfl⟩⟩,
    @connect_second_word Console.white 0 Console.new.addMainCommands [] rfl rfl
      "connect alice  10.0.0.1".toList "alice".toList [] " 10.0.0.1".toList (by decide) (by decide)
      (by decide) (.inr ⟨_, rfl⟩)⟩

end TecEngine
