/-
The standard engine: patterns as read by `Pattern.parse`, searched by their programs.
-/
import LineScopes.Engine
import LineScopes.Pattern.Parse
import LineScopes.Pattern.Search

namespace LineScopes

/-- The standard engine. -/
def standardEngine : Engine Pattern.Malformed Pattern.Program where
  compile text :=
    match Pattern.parse text with
    | .error e => .error e
    | .ok p => Pattern.Program.ofPattern? p
  search program line start := program.search line start

end LineScopes
