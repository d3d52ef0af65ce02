import GoFlow.Command.Terminal
import GoFlow.Proofs.Literals

/-!
# What is asked of a terminal

What the program prints is judged under two assumptions on the terminal, whatever it is made of.
Both are met by the terminals that the program is run on.

- `Terminal.EchoesPlain`: lines without escape sequences are printed as they stand.
- `Terminal.PrintsPlain`: so is text in red that is no markup itself, up to its layout.
- `Terminal.echoesPlain_ofWidth`, `Terminal.printsPlain_ofWidth`: the terminals of the program.
-/

namespace GoFlow

namespace Terminal

/-- Lines are printed as they stand, unless an escape sequence starts in them. -/
def EchoesPlain (t : Terminal) : Prop := ∀ s : String, escapeChar ∉ s.toList → t.echo s = s

/-- Text in red can be printed, and is laid out by `plain`, unless some of it is markup. -/
def PrintsPlain (t : Terminal) (plain : String → String) : Prop :=
  ∀ s : String, s ≠ "" → Markup.isLiteral s.toList = true →
    t.print ("[red]" ++ s ++ "[/red]") = .ok (plain s)

/-- The layout of plain text: emoji are filled in and controls left out, and lines are as wide as
the terminal at most. -/
def plainText (columns : Nat) (s : String) : String :=
  wrapText columns ((expandEmoji s.toList).filter (!Markup.movesCursor ·))

/-- Only escape sequences are dropped from a line. -/
theorem echoesPlain_ofWidth (columns : Nat) : (ofWidth columns).EchoesPlain :=
  fun _ hs => dropEscapes_of_not_mem hs

/-- The two tags around a text are all that markup takes away. -/
theorem printsPlain_ofWidth (columns : Nat) :
    (ofWidth columns).PrintsPlain (plainText columns) := by
  intro s hne hs
  have hmarkup : ("[red]" ++ s ++ "[/red]").toList
      = "[red]".toList ++ (s.toList ++ "[/red]".toList) := by
    simp only [String.toList_append, List.append_assoc]
  cases hlist : s.toList with
  | nil => exact absurd (String.toList_eq_nil_iff.1 hlist) hne
  | cons c rest =>
    rw [hlist] at hs hmarkup
    show ((Markup.render ("[red]" ++ s ++ "[/red]").toList).map (wrapText columns)).mapError
      MarkupFault.kindName = .ok (plainText columns s)
    rw [hmarkup, Markup.render_red hs, plainText, hlist]
    rfl

end Terminal

end GoFlow
