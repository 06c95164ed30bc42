/-
How text is laid out for those who read it, and how it is painted.

A theme chooses the styles.  Text is painted only where it is shown on a terminal, and never in the
plain theme; what a terminal writes around a text to show it in a style is up to the terminal.
-/

namespace DeviceTree.Cli

/-- A choice of styles. -/
inductive Theme where
  | auto
  | light
  | dark
  | plain
  deriving DecidableEq, Repr

/-- The theme of that name. -/
def Theme.ofName? : String → Option Theme
  | "auto" => some .auto
  | "light" => some .light
  | "dark" => some .dark
  | "plain" => some .plain
  | _ => none

/-- A colour for text. -/
inductive Color where
  | black
  | red
  | green
  | yellow
  | blue
  | purple
  | white
  | lightGreen
  | lightBlue
  | lightCyan
  deriving DecidableEq, Repr

/-- How a text is shown. -/
structure Style where
  color : Option Color
  bold : Bool
  deriving DecidableEq, Repr

/-- The styles of the parts of an output. -/
structure Palette where
  heading : Style
  key : Style
  value : Style
  bullet : Style
  info : Style
  success : Style
  warning : Style
  deriving DecidableEq, Repr

namespace Palette

/-- Styles for a dark background. -/
def dark : Palette where
  heading := ⟨some .purple, true⟩
  key := ⟨some .lightBlue, true⟩
  value := ⟨some .white, false⟩
  bullet := ⟨some .lightBlue, false⟩
  info := ⟨some .lightCyan, false⟩
  success := ⟨some .lightGreen, true⟩
  warning := ⟨some .yellow, true⟩

/-- Styles for a light background. -/
def light : Palette where
  heading := ⟨some .blue, true⟩
  key := ⟨some .black, true⟩
  value := ⟨some .black, false⟩
  bullet := ⟨some .blue, false⟩
  info := ⟨some .purple, false⟩
  success := ⟨some .green, true⟩
  warning := ⟨some .red, true⟩

/-- No styles. -/
def plain : Palette where
  heading := ⟨none, false⟩
  key := ⟨none, false⟩
  value := ⟨none, false⟩
  bullet := ⟨none, false⟩
  info := ⟨none, false⟩
  success := ⟨none, false⟩
  warning := ⟨none, false⟩

end Palette

/-- What a terminal writes around a text to show it in a style. -/
structure Ink where
  before : String
  after : String
  deriving DecidableEq, Repr

/-- The ink that a terminal has for each style. -/
abbrev Inks := Style → Ink

namespace Inks

/-- The number of a colour in an escape sequence. -/
def code : Color → Nat
  | .black => 30
  | .red => 31
  | .green => 32
  | .yellow => 33
  | .blue => 34
  | .purple => 35
  | .white => 37
  | .lightGreen => 92
  | .lightBlue => 94
  | .lightCyan => 96

/-- The inks of a terminal that knows the common escape sequences. -/
def ansi : Inks := fun style =>
  match (if style.bold then [1] else []) ++ style.color.toList.map code with
  | [] => ⟨"", ""⟩
  | codes => ⟨"\x1b[" ++ ";".intercalate (codes.map toString) ++ "m", "\x1b[0m"⟩

end Inks

/-- How an output is painted. -/
structure Ui where
  palette : Palette
  /-- The inks to paint with; without them everything is plain. -/
  inks : Option Inks

namespace Ui

/-- An output in this theme, on a terminal with these inks if it is shown on one. -/
def ofTheme (theme : Theme) (terminal : Option Inks) : Ui :=
  match theme with
  | .plain => ⟨.plain, none⟩
  | .light => ⟨.light, terminal⟩
  | .dark | .auto => ⟨.dark, terminal⟩

/-- A text in a style. -/
def paint (ui : Ui) (style : Style) (text : String) : String :=
  ui.inks.elim text fun inks => (inks style).before ++ text ++ (inks style).after

/-- So many steps further in. -/
def indent (depth : Nat) : String :=
  String.join (List.replicate depth "  ")

/-- The row of an element. -/
def element (ui : Ui) (depth : Nat) (identifier detail : String) : String :=
  indent depth ++ ui.paint ui.palette.key identifier ++ " " ++ ui.paint ui.palette.value detail

/-- The row of a link. -/
def link (ui : Ui) (depth : Nat) (identifier target : String) : String :=
  indent depth ++ ui.paint ui.palette.info "↪" ++ " " ++ identifier ++ " => " ++ target

/-- A title. -/
def heading (ui : Ui) (title : String) : String :=
  ui.paint ui.palette.heading ("▸ " ++ title)

/-- Keys and values under a title, with the keys aligned to the right. -/
def keyed (ui : Ui) (title : String) (rows : List (String × String)) : List String :=
  let width := (rows.map fun row => row.1.length).foldl max 0
  let line := fun (row : String × String) =>
    let key := String.ofList (List.replicate (width - row.1.length) ' ') ++ row.1 ++ ":"
    "  " ++ ui.paint ui.palette.key key ++ " " ++ ui.paint ui.palette.value row.2
  if rows.isEmpty then [] else ui.heading title :: rows.map line

/-- What stands in front of an entry of a list. -/
def bullet (ui : Ui) : String :=
  if ui.inks.isSome then ui.paint ui.palette.bullet "•" else "-"

/-- Entries under a title; nothing if there are none. -/
def listed (ui : Ui) (title : String) (entries : List String) : List String :=
  if entries.isEmpty then []
  else ui.heading title :: entries.map fun entry => "  " ++ ui.bullet ++ " " ++ entry

/-- The line of a success. -/
def success (ui : Ui) (message : String) : String :=
  ui.paint ui.palette.success "✔" ++ " " ++ message

/-- The line of a warning. -/
def warning (ui : Ui) (message : String) : String :=
  ui.paint ui.palette.warning "⚠" ++ " " ++ message

end Ui

end DeviceTree.Cli
