import SqlShell.Text.Blank

/-! # Given Values

    A user gives an option a value.  Two dashes are the mark that ends the
    options and no value: a word that joins them to an option takes the option
    into account, but gives it nothing. -/

namespace SqlShell

/-- **What an option is given**: a value, or nothing. -/
abbrev Given (α : Type) := Option α

namespace Given

/-- What a word gives to the option in it. -/
def ofWord (value : Text) : Given Text := if value = ['-', '-'] then none else some value

/-- How it shows what an option is given: nothing is an empty list. -/
def shown (g : Given Text) : Text := g.getD ['[', ']']

end Given

end SqlShell
