import TecEngine.Gui.CommandLine

/-!
# The console's commands

When a line is entered, `Console::Draw` (`console.cpp`) looks up the command the line names in
`commands`: a command it finds is echoed as `]name` by `Printfln` and called with the rest of
the line; for a name it does not find it prints `Unknown command`. A line that starts with `/`
goes to the slash handler. The constructor's four commands act on the console itself:
`cmdlist` prints the name of every command, in name order; `help` prints the help text of the
command its argument names, or a hint to use `cmdlist`; `clear` clears the output; `echo`
prints its argument. The slash handler and the other commands act outside the console
(`ConsoleEffect`).

Every print of `Draw` and of a command is a `Println`, `Printfln` or `Clear` call, so a session
at the console (registrations, entered lines, and prints from elsewhere, such as the log
sink's) is a run of those calls, and the results on runs carry over: the output holds the
latest 4096 lines the session printed since its latest `Clear`.

A `Println` without a colour takes the default argument of its declaration, in the console's
header, which is outside the sources: it is the section variable `defaultColor`. `Draw` is
modelled for a shown console; the `show` flag, its toggle by Escape, and the window's layout
are not.

## Main definitions

* `Console.runCommand`, `Console.draw`: a command's call, and `Draw` on an entered line
* `commandCalls`, `drawCalls`: the calls on the console they make
* `SessionOp`, `Console.runSession`, `sessionCalls`: a session at the console

## Main results

* `runCommand_eq_run`, `draw_eq_run`: a command and an entered line are runs of their calls
* `runSession_last_lines`: a session holds the latest lines it printed since its latest `Clear`
-/

namespace TecEngine

/-- What a call of the console passes outside it. -/
inductive ConsoleEffect
  /-- `slash_handler(args)` -/
  | slash (args : List Char)
  /-- a command of `main`, called with the rest of the line -/
  | external (action : String) (args : List Char)
  deriving DecidableEq, Repr

/-- The line `help` prints for a name it does not find. -/
def unknownHelp : List Char :=
  "Unknown command. Please use cmdlist to list all commands.".toList

/-- The line `Draw` prints for a name it does not find. -/
def unknownCommand : List Char :=
  "Unknown command".toList

section Commands

variable (defaultColor : ImVec4)

namespace Console

/-- A command's call on the console with the argument text `args`. -/
def runCommand (c : Console) : CommandFunc → List Char → Option (Console × Option ConsoleEffect)
  | .cmdlist, _ =>
    (c.commands.foldlM (fun (c : Console) command => c.println (String.mk command.1) defaultColor) c).map
      (·, none)
  | .help, command =>
    match c.commands.find command with
    | some (_, help) => (c.println help defaultColor).map (·, none)
    | none => (c.printlnCStr unknownHelp defaultColor).map (·, none)
  | .clear, _ => some (c.clear, none)
  | .echo, args => (c.println (String.mk args) defaultColor).map (·, none)
  | .external action, args => some (c, some (.external action args))

/-- `Draw` on the input buffer `inputBuf` after `InputText` reports an entered line. -/
def draw (c : Console) (inputBuf : List Char) : Option (Console × Option ConsoleEffect) :=
  match submitInput inputBuf with
  | .none => some (c, none)
  | .slash args => some (c, some (.slash args))
  | .command name args =>
    match c.commands.find name with
    | some (func, _) => (c.printfln (']' :: name)).bind (·.runCommand defaultColor func args)
    | none => (c.printlnCStr unknownCommand defaultColor).map (·, none)

end Console

/-! ## The calls of a command and of an entered line -/

/-- The calls on the console of a command's call. -/
def commandCalls (commands : StdMap (CommandFunc × String) (List Char)) :
    CommandFunc → List Char → List ConsoleOp
  | .cmdlist, _ => commands.map fun command => .println (String.mk command.1) defaultColor
  | .help, command =>
    match commands.find command with
    | some (_, help) => [.println help defaultColor]
    | none => [.printlnCStr unknownHelp defaultColor]
  | .clear, _ => [.clear]
  | .echo, args => [.println (String.mk args) defaultColor]
  | .external _, _ => []

/-- The call outside the console of a command's call. -/
def commandEffect : CommandFunc → List Char → Option ConsoleEffect
  | .external action, args => some (.external action args)
  | _, _ => none

/-- The calls on the console of an entered line, and its call outside the console. -/
def drawCalls (commands : StdMap (CommandFunc × String) (List Char)) (inputBuf : List Char) :
    List ConsoleOp × Option ConsoleEffect :=
  match submitInput inputBuf with
  | .none => ([], none)
  | .slash args => ([], some (.slash args))
  | .command name args =>
    match commands.find name with
    | some (func, _) =>
      (.printfln (']' :: name) :: commandCalls defaultColor commands func args, commandEffect func args)
    | none => ([.printlnCStr unknownCommand defaultColor], none)

namespace Console

/-- A command's call is the run of its calls. -/
theorem runCommand_eq_run (c : Console) (func : CommandFunc) (args : List Char) :
    c.runCommand defaultColor func args =
      (c.run (commandCalls defaultColor c.commands func args)).map (·, commandEffect func args) := by
  cases func with
  | cmdlist => simp only [runCommand, commandCalls, run, List.foldlM_map]; rfl
  | help =>
    simp only [runCommand, commandCalls]
    split <;> simp [step, commandEffect]
  | echo => simp [runCommand, commandCalls, step, commandEffect]
  | clear | external => rfl

/-- **An entered line is the run of its calls** on the console, with its call outside it. -/
theorem draw_eq_run (c : Console) (inputBuf : List Char) :
    c.draw defaultColor inputBuf =
      (c.run (drawCalls defaultColor c.commands inputBuf).1).map
        (·, (drawCalls defaultColor c.commands inputBuf).2) := by
  unfold draw drawCalls
  split
  · rfl
  · rfl
  · split
    · simp only [run_cons, step]
      cases hp : c.printfln _ with
      | none => rfl
      | some c' =>
        rw [Option.some_bind, Option.some_bind, runCommand_eq_run, pushLine_commands hp]
    · simp [step]

/-- **An entered line** on a buffer that holds the latest lines of a history `lines` completes,
keeps the commands, and leaves the latest 4096 lines of that history followed by its prints. -/
theorem draw_last_lines {c : Console} {lines : List (ImVec4 × String)}
    (h : c.buf.items = lines.reverse.take 4096) (inputBuf : List Char) :
    ∃ c', c.draw defaultColor inputBuf = some (c', (drawCalls defaultColor c.commands inputBuf).2) ∧
      c'.commands = c.commands ∧
      c'.buf.items = (printedAfter lines (drawCalls defaultColor c.commands inputBuf).1).reverse.take 4096 := by
  obtain ⟨c', hc', hcmd, hitems⟩ := run_last_lines h (drawCalls defaultColor c.commands inputBuf).1
  exact ⟨c', by rw [draw_eq_run, hc']; rfl, hcmd, hitems⟩

end Console

/-- A line naming a command echoes it with `]`, the text `Printfln` formats. -/
theorem drawCalls_of_find {commands : StdMap (CommandFunc × String) (List Char)}
    {inputBuf name args : List Char} {func : CommandFunc} {help : String}
    (hin : submitInput inputBuf = .command name args) (hfind : commands.find name = some (func, help)) :
    drawCalls defaultColor commands inputBuf =
      (.printfln (']' :: name) :: commandCalls defaultColor commands func args, commandEffect func args) := by
  simp only [drawCalls, hin, hfind]

/-! ## Sessions -/

/-- A call on the console in a session. -/
inductive SessionOp
  /-- `AddConsoleCommand(name, help, func)` -/
  | addConsoleCommand (name : List Char) (help : String) (func : CommandFunc)
  /-- `Draw` on an entered line -/
  | draw (inputBuf : List Char)
  /-- a `Println`, `Printfln` or `Clear` from elsewhere -/
  | call (op : ConsoleOp)

namespace Console

/-- One call of a session. -/
def sessionStep (c : Console) : SessionOp → Option (Console × Option ConsoleEffect)
  | .addConsoleCommand name help func => some (c.addConsoleCommand name help func, none)
  | .draw inputBuf => c.draw defaultColor inputBuf
  | .call op => (c.step op).map (·, none)

/-- A session, stopped by a fault, with the calls it passes outside the console in order. -/
def runSession (c : Console) : List SessionOp → Option (Console × List ConsoleEffect)
  | [] => some (c, [])
  | op :: ops =>
    (c.sessionStep defaultColor op).bind fun r =>
      (r.1.runSession ops).map fun r' => (r'.1, r.2.toList ++ r'.2)

end Console

/-- The calls on the console of a session from the command map `commands`, and its calls
outside the console. -/
def sessionCalls (commands : StdMap (CommandFunc × String) (List Char)) :
    List SessionOp → List ConsoleOp × List ConsoleEffect
  | [] => ([], [])
  | .addConsoleCommand name help func :: ops => sessionCalls (commands.set name (func, help)) ops
  | .draw inputBuf :: ops =>
    ((drawCalls defaultColor commands inputBuf).1 ++ (sessionCalls commands ops).1,
      (drawCalls defaultColor commands inputBuf).2.toList ++ (sessionCalls commands ops).2)
  | .call op :: ops => (op :: (sessionCalls commands ops).1, (sessionCalls commands ops).2)

namespace Console

/-- A session on a buffer that holds the latest lines of a history `lines` completes, passes
out its calls, and leaves the latest 4096 lines of that history followed by its prints. -/
theorem runSession_items {c : Console} {lines : List (ImVec4 × String)}
    (h : c.buf.items = lines.reverse.take 4096) (ops : List SessionOp) :
    ∃ c', c.runSession defaultColor ops = some (c', (sessionCalls defaultColor c.commands ops).2) ∧
      c'.buf.items = (printedAfter lines (sessionCalls defaultColor c.commands ops).1).reverse.take 4096 := by
  induction ops generalizing c lines with
  | nil => exact ⟨c, rfl, h⟩
  | cons op ops ih =>
    cases op with
    | addConsoleCommand name help func =>
      obtain ⟨c', hc', hitems⟩ := ih (c := c.addConsoleCommand name help func) h
      exact ⟨c', by simp only [runSession, sessionStep, Option.some_bind, hc']; rfl, hitems⟩
    | draw inputBuf =>
      obtain ⟨c', hc', hcmd, hitems⟩ := draw_last_lines defaultColor h inputBuf
      obtain ⟨c'', hc'', hitems'⟩ := ih hitems
      rw [hcmd] at hc'' hitems'
      refine ⟨c'', ?_, by rw [sessionCalls, printedAfter_append]; exact hitems'⟩
      simp only [runSession, sessionStep, hc', Option.some_bind, hc'', Option.map_some']
      rfl
    | call op =>
      obtain ⟨c', hc', hcmd, hitems⟩ := run_last_lines h [op]
      obtain ⟨c'', hc'', hitems'⟩ := ih hitems
      rw [hcmd] at hc'' hitems'
      have hstep : c.step op = some c' := by simpa [run_cons] using hc'
      refine ⟨c'', ?_, by rw [sessionCalls, ← List.singleton_append, printedAfter_append]; exact hitems'⟩
      simp only [runSession, sessionStep, hstep, Option.map_some', Option.some_bind, hc'']
      rfl

/-- **A session at the console holds the latest lines it printed since its latest `Clear`**:
from the constructed console, every session of command registrations, entered lines and
prints completes; it passes out its slash-handler and outside commands' calls in order; and the
output holds the latest 4096 of the lines its calls print since the latest `Clear`, newest at
the front. -/
theorem runSession_last_lines (ops : List SessionOp) :
    ∃ c, new.runSession defaultColor ops = some (c, (sessionCalls defaultColor new.commands ops).2) ∧
      c.buf.items = (printedSinceClear (sessionCalls defaultColor new.commands ops).1).reverse.take 4096 :=
  @runSession_items defaultColor new [] rfl ops

end Console

end Commands

end TecEngine
