import FirstMatch.Lexing.Builtin
import FirstMatch.Watch.Detector

/-! Lexer configurations: the rules in the order they are tried, the symbol tables, and how
whitespace and loops are dealt with. -/

namespace FirstMatch.Lexing

open Text

structure Config (σ : Type) where
  skipsWhitespace : Bool := false
  rules : List (Rule σ) := []
  symbols : Symbols := {}
  watch : Watch := {}

namespace Config

variable {σ : Type}

/-- Adds rules after those already there. -/
def addRules (cfg : Config σ) (rules : List (Rule σ)) : Config σ :=
  { cfg with rules := cfg.rules ++ rules }

def addOperators (cfg : Config σ) (entries : List (String × Kind)) : Config σ :=
  { cfg with symbols := cfg.symbols.addOperators entries }

def addKeywords (cfg : Config σ) (entries : List (String × Kind)) : Config σ :=
  { cfg with symbols := cfg.symbols.addKeywords entries }

/-- Whitespace separates identifiers, numbers, quoted literals and the fixed operators. -/
def standard : Config σ :=
  { skipsWhitespace := true
    rules :=
      [Builtin.identifier.rule "LexIdentifier" isLetter,
        Builtin.number.rule "LexNumber" isNumber,
        Builtin.charLiteral.rule "LexChar" isSingleQuote,
        Builtin.string.rule "LexString" isDoubleQuote,
        Builtin.rawString.rule "LexRawString" isBackQuote,
        Builtin.operator.rule "LexOperator" isOperator]
    symbols := Symbols.addOperators {} Kind.operators }

def outline (cfg : Config σ) : Outline :=
  .record "Config"
    [("skip_whitespace", .bool cfg.skipsWhitespace),
      ("rules", .list (cfg.rules.map fun rule => .quoted rule.name)),
      ("symbols", cfg.symbols.outline),
      ("loop_detection", cfg.watch.outline)]

end Config

end FirstMatch.Lexing
