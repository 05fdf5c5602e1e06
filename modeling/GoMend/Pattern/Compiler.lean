import GoMend.Fault
import GoMend.Pattern.Notation
import GoMend.Pattern.Search

/-!
# Compiling name patterns

A configuration gives name patterns as texts.  What a text denotes is up to a compiler, which
refuses the texts that are no patterns; of a compiled pattern only one thing is asked, whether it
occurs in a name.  All that works with patterns takes the compiler as an argument.  The compiler
for the notation of this library is one of them.
-/

namespace GoMend

/-- A compiled pattern: the names that it occurs in. -/
structure Matcher where
  occursIn : String → Bool

/-- A pattern of the notation, searched for in the whole name. -/
def Pattern.matcher (pattern : Pattern) : Matcher where
  occursIn := pattern.occursIn

/-- The pattern that each text denotes, if it denotes one. -/
structure PatternCompiler where
  compile? : String → Option Matcher

namespace PatternCompiler

/-- Compile a pattern, or say that it is none. -/
def compile (compiler : PatternCompiler) (text : String) : Except Fault Matcher :=
  match compiler.compile? text with
  | some matcher => .ok matcher
  | none => .error .invalidPattern

/-- The patterns of the notation. -/
def standard : PatternCompiler where
  compile? text := (Pattern.ofText? text).map Pattern.matcher

end PatternCompiler

end GoMend
