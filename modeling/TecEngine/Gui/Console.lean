import TecEngine.StdMap
import Mathlib.Data.List.Lex
import Mathlib.Data.Char
import Mathlib.Algebra.Order.Ring.Unbundled.Rat

/-!
# The console's output buffer and commands

The console (`console.cpp`) keeps its output in `buf`, a
`RingBuffer<std::tuple<ImVec4, std::string>, 4096>`: `Println` (for an `std::string` or a C
string) and `Printfln` pop the back line of a full buffer and push the new line at the front;
`Clear` empties it. `Printfln` prints its arguments with `vsnprintf` into a 1024-byte array,
so its line is the formatted text cut to 1023 characters, and, like the C-string `Println`,
it stops at the first NUL.

Its commands are a `std::map` from a name to the command's function and help text;
`AddConsoleCommand` assigns the entry of its name, and the constructor registers `cmdlist`,
`help`, `clear` and `echo`. The map is iterated in name order: a name, an `std::string`, is its
list of characters, ordered lexicographically.

The ring buffer's class is outside the sources. It is modelled by its view, the list of its
lines from the front, with its capacity bound carried in the structure; `pop_back` on an empty
buffer and `push_front` on a full one are undefined, a fault (`none`). The formatting of
`vsnprintf` is not modelled: `Printfln` takes the text it formats. A C string is a list of
`char`s, bytes, and each `Char` of the model stands for one of them: on text outside ASCII,
where a character takes several bytes of UTF-8, the model's cut at 1023 `Char`s is not
`vsnprintf`'s cut at 1023 bytes.

## Main definitions

* `RingBuffer`: a ring buffer of at most `capacity` lines
* `CommandFunc`, `Console.addConsoleCommand`, `Console.new`: the command map
* `Console.pushLine`: the body the three printing functions share
* `println`, `printlnCStr`, `printfln`, `clear`, `Console.run`: the calls and their runs
* `printedAfter`, `printedSinceClear`: the lines of a run after its latest `Clear`

## Main results

* `pushLine_items`: a print on a buffer holding the latest lines of some history holds the
  latest lines of that history and the new line
* `run_last_lines`, `run_console_last_lines`: the buffer holds exactly the latest 4096 lines
  printed since the latest `Clear`, newest at the front
-/

namespace TecEngine

/-- An `ImVec4` colour. -/
structure ImVec4 where
  x : ℚ
  y : ℚ
  z : ℚ
  w : ℚ
  deriving DecidableEq, Repr

/-- `std::string(cstr)`: the characters before the first NUL. -/
def cString (cstr : List Char) : String :=
  String.mk (cstr.takeWhile (· ≠ '\x00'))

theorem cString_of_nul_not_mem {cstr : List Char} (h : '\x00' ∉ cstr) :
    cString cstr = String.mk cstr := by
  rw [cString, List.takeWhile_eq_self_iff.mpr]
  intro c hc
  simp only [ne_eq, decide_eq_true_eq]
  rintro rfl
  exact h hc

/-- A ring buffer holding at most `capacity` values, by its values from the front. -/
structure RingBuffer (α : Type) (capacity : Nat) where
  items : List α
  bound : items.length ≤ capacity

namespace RingBuffer

variable {α : Type} {capacity : Nat}

/-- The empty buffer. -/
def empty : RingBuffer α capacity := ⟨[], Nat.zero_le _⟩

/-- `full()`. -/
def full (b : RingBuffer α capacity) : Bool := b.items.length = capacity

/-- `pop_back()`: drop the back value; a fault on an empty buffer. -/
def popBack (b : RingBuffer α capacity) : Option (RingBuffer α capacity) :=
  if b.items.isEmpty then none
  else some ⟨b.items.dropLast, (List.length_dropLast b.items ▸ Nat.sub_le _ _).trans b.bound⟩

/-- `push_front(a)`: put `a` at the front; a fault on a full buffer. -/
def pushFront (b : RingBuffer α capacity) (a : α) : Option (RingBuffer α capacity) :=
  if h : b.items.length < capacity then some ⟨a :: b.items, h⟩ else none

theorem popBack_items {b : RingBuffer α capacity} (h : b.items ≠ []) :
    ∃ b', b.popBack = some b' ∧ b'.items = b.items.dropLast := by
  simp [popBack, List.isEmpty_iff, h]

theorem pushFront_items {b : RingBuffer α capacity} (h : b.items.length < capacity) (a : α) :
    ∃ b', b.pushFront a = some b' ∧ b'.items = a :: b.items :=
  ⟨_, dif_pos h, rfl⟩

end RingBuffer

/-- A console command's `std::function`: one of the four the constructor registers, which act
on the console, or one that acts outside it (`main`'s `exit`, `msg`, `lua` and `connect`),
named by its action. -/
inductive CommandFunc
  | cmdlist
  | help
  | clear
  | echo
  | external (action : String)
  deriving DecidableEq, Repr

/-- The state of the console: its output, and its commands by name, each with its help text,
kept in name order. -/
structure Console where
  buf : RingBuffer (ImVec4 × String) 4096
  scrollToBottom : Bool
  commands : StdMap (CommandFunc × String) (List Char)
  sorted : commands.Pairwise (·.1 < ·.1)

namespace Console

/-- `AddConsoleCommand(name, help, func)`: `commands[name] = make_tuple(func, help)`. -/
def addConsoleCommand (c : Console) (name : List Char) (help : String) (func : CommandFunc) :
    Console :=
  { c with commands := c.commands.set name (func, help), sorted := StdMap.pairwise_set c.sorted }

/-- `Console()`: an empty buffer, and the commands `cmdlist`, `help`, `clear` and `echo`. -/
def new : Console :=
  (⟨.empty, false, [], .nil⟩ : Console)
    |>.addConsoleCommand "cmdlist".toList "cmdlist : List all commands" .cmdlist
    |>.addConsoleCommand "help".toList "help [command] : Prints a short help about an command" .help
    |>.addConsoleCommand "clear".toList "clear : Clear console output" .clear
    |>.addConsoleCommand "echo".toList "echo [message] : Prints a message to the console" .echo

example : new.commands.map (·.1) = ["clear".toList, "cmdlist".toList, "echo".toList, "help".toList] := by
  decide

/-- What `Println` and `Printfln` do with their line: pop the back line of a full buffer, push
the line at the front, and scroll to the bottom. -/
def pushLine (c : Console) (entry : ImVec4 × String) : Option Console :=
  let buf := if c.buf.full then c.buf.popBack else some c.buf
  (buf.bind (·.pushFront entry)).map fun buf => { c with buf, scrollToBottom := true }

/-- `Println(const std::string&, ImVec4)`. -/
def println (c : Console) (str : String) (color : ImVec4) : Option Console :=
  c.pushLine (color, str)

/-- `Println(const char*, ImVec4)`. -/
def printlnCStr (c : Console) (cstr : List Char) (color : ImVec4) : Option Console :=
  c.pushLine (color, cString cstr)

/-- `ImVec4(255, 255, 255, 255)`, the colour of `Printfln`. -/
def white : ImVec4 := ⟨255, 255, 255, 255⟩

/-- `Printfln(fmt, ...)`, with the text `vsnprintf` formats: at most 1023 `char`s of it reach the
array. Each `Char` stands for one `char`, a byte; on text outside ASCII the cut differs from
`vsnprintf`'s. -/
def printfln (c : Console) (formatted : List Char) : Option Console :=
  c.pushLine (white, cString (formatted.take 1023))

/-- `Clear()`. -/
def clear (c : Console) : Console := { c with buf := .empty }

end Console

/-- A call on the console. -/
inductive ConsoleOp
  | println (str : String) (color : ImVec4)
  | printlnCStr (cstr : List Char) (color : ImVec4)
  | printfln (formatted : List Char)
  | clear

/-- The line a call prints, with its colour; none for `Clear`. The cut of `Printfln` counts
`Char`s, each standing for one C `char`, as `printfln` does. -/
def ConsoleOp.entry : ConsoleOp → Option (ImVec4 × String)
  | .println str color => some (color, str)
  | .printlnCStr cstr color => some (color, cString cstr)
  | .printfln formatted => some (Console.white, cString (formatted.take 1023))
  | .clear => none

namespace Console

/-- One call. -/
def step (c : Console) : ConsoleOp → Option Console
  | .println str color => c.println str color
  | .printlnCStr cstr color => c.printlnCStr cstr color
  | .printfln formatted => c.printfln formatted
  | .clear => some c.clear

/-- A run of calls, stopped by a fault. -/
def run (c : Console) (ops : List ConsoleOp) : Option Console :=
  ops.foldlM step c

@[simp] theorem run_nil (c : Console) : c.run [] = some c := rfl

theorem run_cons (c : Console) (op : ConsoleOp) (ops : List ConsoleOp) :
    c.run (op :: ops) = (c.step op).bind (·.run ops) :=
  rfl

@[simp] theorem run_singleton (c : Console) (op : ConsoleOp) : c.run [op] = c.step op := by
  simp [run_cons]

theorem run_append (c : Console) (ops ops' : List ConsoleOp) :
    c.run (ops ++ ops') = (c.run ops).bind (·.run ops') := by
  simp [run, List.foldlM_append]

theorem pushLine_commands {c c' : Console} {e : ImVec4 × String} (h : c.pushLine e = some c') :
    c'.commands = c.commands := by
  simp only [pushLine, Option.map_eq_some'] at h
  obtain ⟨_, -, rfl⟩ := h
  rfl

/-- A print is the shared body on its line. -/
theorem step_of_entry_eq_some (c : Console) {op : ConsoleOp} {e : ImVec4 × String}
    (h : op.entry = some e) : c.step op = c.pushLine e := by
  cases op <;> cases h <;> rfl

end Console

/-- The lines of a history `lines` followed by the calls `ops`, after their latest `Clear`. -/
def printedAfter (lines : List (ImVec4 × String)) (ops : List ConsoleOp) : List (ImVec4 × String) :=
  ops.foldl (fun lines op => match op.entry with
    | some e => lines ++ [e]
    | none => []) lines

/-- The lines the calls `ops` print after their latest `Clear`, in order. -/
def printedSinceClear (ops : List ConsoleOp) : List (ImVec4 × String) :=
  printedAfter [] ops

@[simp] theorem printedAfter_nil (lines : List (ImVec4 × String)) : printedAfter lines [] = lines :=
  rfl

theorem printedAfter_cons (lines : List (ImVec4 × String)) (op : ConsoleOp) (ops : List ConsoleOp) :
    printedAfter lines (op :: ops) =
      printedAfter (match op.entry with
        | some e => lines ++ [e]
        | none => []) ops :=
  rfl

@[simp] theorem printedAfter_append (lines : List (ImVec4 × String)) (ops ops' : List ConsoleOp) :
    printedAfter lines (ops ++ ops') = printedAfter (printedAfter lines ops) ops' := by
  simp [printedAfter, List.foldl_append]

namespace Console

/-- **A print** on a buffer that holds the latest lines of a history `lines`, newest at the
front, completes, and the buffer then holds the latest lines of `lines` and the new line: a
full buffer loses exactly its oldest line. The commands are kept. -/
theorem pushLine_items {c : Console} {lines : List (ImVec4 × String)}
    (h : c.buf.items = lines.reverse.take 4096) (e : ImVec4 × String) :
    ∃ c', c.pushLine e = some c' ∧ c'.commands = c.commands ∧
      c'.buf.items = (lines ++ [e]).reverse.take 4096 := by
  rw [List.reverse_append, List.reverse_singleton, List.singleton_append, List.take_succ_cons]
  by_cases hfull : c.buf.full
  · have hlen : c.buf.items.length = 4096 := by simpa [RingBuffer.full] using hfull
    obtain ⟨b, hpop, hb⟩ := RingBuffer.popBack_items (b := c.buf) (fun h0 => by simp [h0] at hlen)
    obtain ⟨b', hpush, hb'⟩ := RingBuffer.pushFront_items (b := b)
      (by rw [hb, List.length_dropLast, hlen]; omega) e
    refine ⟨{ c with buf := b', scrollToBottom := true }, by simp [pushLine, hfull, hpop, hpush], rfl, ?_⟩
    have hlong : 4096 ≤ lines.reverse.length := by rw [h, List.length_take] at hlen; omega
    rw [hb', hb, h, List.dropLast_eq_take, List.take_take, List.length_take]
    congr 2
    omega
  · have hlen : c.buf.items.length < 4096 :=
      lt_of_le_of_ne c.buf.bound (by simpa [RingBuffer.full] using hfull)
    obtain ⟨b', hpush, hb'⟩ := RingBuffer.pushFront_items hlen e
    refine ⟨{ c with buf := b', scrollToBottom := true }, by simp [pushLine, hfull, hpush], rfl, ?_⟩
    have hshort : lines.reverse.length ≤ 4095 := by
      rw [h, List.length_take] at hlen; omega
    rw [hb', h, List.take_of_length_le (by omega), List.take_of_length_le hshort]

/-- **A run of calls** on a buffer that holds the latest lines of a history `lines` completes,
keeps the commands, and leaves the latest 4096 lines of that history followed by the run's
prints, after the run's latest `Clear`. -/
theorem run_last_lines {c : Console} {lines : List (ImVec4 × String)}
    (h : c.buf.items = lines.reverse.take 4096) (ops : List ConsoleOp) :
    ∃ c', c.run ops = some c' ∧ c'.commands = c.commands ∧
      c'.buf.items = (printedAfter lines ops).reverse.take 4096 := by
  induction ops generalizing c lines with
  | nil => exact ⟨c, rfl, rfl, h⟩
  | cons op ops ih =>
    rw [run_cons, printedAfter_cons]
    cases he : op.entry with
    | none =>
      cases op <;> simp only [ConsoleOp.entry, reduceCtorEq] at he
      exact ih (c := c.clear) rfl
    | some e =>
      obtain ⟨c', hc', hcmd, hitems⟩ := pushLine_items h e
      obtain ⟨c'', hc'', hcmd', hitems'⟩ := ih hitems
      exact ⟨c'', by rw [step_of_entry_eq_some c he, hc', Option.some_bind, hc''], hcmd'.trans hcmd, hitems'⟩

/-- **The console holds the latest lines printed since the latest `Clear`**: from the
constructed console, every run of `Println`, `Printfln` and `Clear` calls completes, so no
line is pushed onto a full buffer; the buffer holds at most 4096 lines, and they are exactly
the latest 4096 of the lines printed since the latest `Clear`, each once, newest at the
front. -/
theorem run_console_last_lines (ops : List ConsoleOp) :
    ∃ c, new.run ops = some c ∧ c.buf.items.length ≤ 4096 ∧
      c.buf.items = (printedSinceClear ops).reverse.take 4096 :=
  let ⟨c, hc, _, hitems⟩ := @run_last_lines new [] rfl ops
  ⟨c, hc, c.buf.bound, hitems⟩

end Console

end TecEngine
