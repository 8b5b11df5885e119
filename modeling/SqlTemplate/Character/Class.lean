import SqlTemplate.Character.Property

/-!
# Classes of characters

The sets that patterns name by one letter, and the ASCII sets with a name between colons.
-/

namespace SqlTemplate.CharSet

def digit : CharSet := Category.union [.nd]

/-- The characters of words: letters and what belongs to them, marks, decimal digits, connecting
punctuation and the two joiners. -/
def word : CharSet :=
  unions [alphabetic, Category.union Category.marks, digit, Category.union [.pc], joinControl]

def asciiDigit : CharSet := ofRanges [('0', '9')]

def asciiWord : CharSet := ofRanges [('a', 'z'), ('A', 'Z'), ('0', '9'), ('_', '_')]

def asciiBlank : CharSet := ofRanges [('\t', '\r'), (' ', ' ')]

/-- The sets with a name between colons, such as `[:alpha:]`. -/
def asciiClass? (name : String) : Option CharSet :=
  match name with
  | "alnum" => some (ofRanges [('0', '9'), ('A', 'Z'), ('a', 'z')])
  | "alpha" => some (ofRanges [('A', 'Z'), ('a', 'z')])
  | "ascii" => some (range 0 0x7F)
  | "blank" => some (ofRanges [('\t', '\t'), (' ', ' ')])
  | "cntrl" => some (ofRanges [('\x00', '\x1f'), ('\x7f', '\x7f')])
  | "digit" => some asciiDigit
  | "graph" => some (ofRanges [('!', '~')])
  | "lower" => some (ofRanges [('a', 'z')])
  | "print" => some (ofRanges [(' ', '~')])
  | "punct" => some (ofRanges [('!', '/'), (':', '@'), ('[', '\x60'), ('\x7b', '~')])
  | "space" => some asciiBlank
  | "upper" => some (ofRanges [('A', 'Z')])
  | "word" => some asciiWord
  | "xdigit" => some (ofRanges [('0', '9'), ('A', 'F'), ('a', 'f')])
  | _ => .none

end SqlTemplate.CharSet
