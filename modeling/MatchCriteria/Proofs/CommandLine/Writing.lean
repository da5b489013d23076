import MatchCriteria.Proofs.CommandLine.Reading

/-!
# Writing command lines

Every command can be written as a command line, with its flags before two hyphens and its values
after them.
-/

namespace MatchCriteria.CommandLine

/-- The arguments of a command line with its flags before two hyphens and its values after
them. -/
def argumentsOf (s : Subcommand) (flags : List ByteArray) (values : List String) :
    List ByteArray :=
  s.name.toUTF8 :: (flags ++ "--".toUTF8 :: values.map String.toUTF8)

theorem map_ofBytes_toUTF8 (texts : List String) :
  (texts.map String.toUTF8).map Argument.ofBytes = texts.map Argument.ofString
  := by
  rw [List.map_map]
  apply List.map_congr_left
  intro text _
  apply Argument.ofBytes_toUTF8

theorem map_ofBytes_argumentsOf (s : Subcommand) (flags : List ByteArray)
    (values : List String) :
  (argumentsOf s flags values).map Argument.ofBytes
    = .ofString s.name ::
      (flags.map Argument.ofBytes ++ .ofString "--" :: values.map Argument.ofString)
  := by
  rw [argumentsOf, List.map_cons, List.map_append, List.map_cons, map_ofBytes_toUTF8,
    Argument.ofBytes_toUTF8, Argument.ofBytes_toUTF8]

/-! ### Flags -/

/-- A flag as it is written by its word. -/
def Flag.argument (f : Flag) : String := "--" ++ f.word

/-- The flags that take no value and do not stop the reading. -/
def switches : List Flag := [.json, .all, .color, .noColor]

theorem Flag.isFlag_argument (f : Flag) :
  (Argument.ofString f.argument).IsFlag
  := by
  cases f <;> exact Or.inl ⟨_, _, rfl⟩

/-! ### Commands -/

namespace Command

/-- Whether a command has a flag that takes no value. -/
def gives (c : Command) : Flag → Bool
  | .json => c.json
  | .all => c.display.all
  | .color => c.display.color
  | .noColor => c.display.noColor
  | _ => false

/-- The flags that a command is written with. -/
def flags (c : Command) : List String :=
  (switches.filter c.gives).map Flag.argument ++ [Flag.output.argument, c.display.output.name]

/-- The command line that a command is written as. -/
def line (c : Command) : List ByteArray :=
  argumentsOf c.subcommand (c.flags.map String.toUTF8) (c.matcher :: c.observations)

end Command

end MatchCriteria.CommandLine
