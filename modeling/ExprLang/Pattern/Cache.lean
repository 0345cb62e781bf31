import ExprLang.Entries
import ExprLang.Pattern.Parser

/-!
# Remembered patterns

Reading a text can cost more than what is done with it afterwards.  Who reads the same few texts many
times can remember what they were read as.  There is room for a fixed number of them; when the room is
used up everything is forgotten at once.  A text that cannot be read is tried anew each time.

Patterns are read in this way, from texts that are put between the anchors of a whole text.

## Main definitions

* `ReadingCache`, `ReadingCache.limit` — what was read, and how much of it is remembered.
* `ReadingCache.read?`, `ReadingCache.readAll` — reading one text with a memory, and one after the other.
* `PatternCache`, `PatternCache.fullMatch?` — matching with a memory for patterns.

## References

`SPEC_FULL.md`, 10.1, on `matches`; the reference's `PATTERN_CACHE`, `MAX_CACHED_PATTERNS` and
`full_match_regex`.
-/

namespace ExprLang

/-- What texts were read as, by the texts. -/
structure ReadingCache (α : Type) where
  entries : Entries α

namespace ReadingCache

variable {α : Type}

def empty : ReadingCache α := ⟨[]⟩

/-- The number of texts that there is room for. -/
def limit : Nat := 256

/-- Remembers what a text was read as. -/
def insert (c : ReadingCache α) (text : String) (a : α) : ReadingCache α :=
  ⟨Entries.insert (if limit ≤ c.entries.length then [] else c.entries) text a⟩

/-- What a text is read as, given a way to read it. -/
def read? (read : String → Option α) (c : ReadingCache α) (text : String) :
    Option α × ReadingCache α :=
  match c.entries.get? text with
  | some a => (some a, c)
  | none =>
    match read text with
    | some a => (some a, c.insert text a)
    | none => (none, c)

/-- What the texts are read as that are read one after the other. -/
def readAll (read : String → Option α) (c : ReadingCache α) :
    List String → List (Option α) × ReadingCache α
  | [] => ([], c)
  | text :: texts =>
    let (a, c) := c.read? read text
    let (as, c) := c.readAll read texts
    (a :: as, c)

end ReadingCache

/-- The pattern of a whole text that is written as `text`, read anew. -/
def Pattern.readAnew? (text : String) : Option Pattern := Pattern.parse? (Pattern.anchored text)

/-- Patterns of whole texts, by the texts they are written as. -/
abbrev PatternCache := ReadingCache Pattern

namespace PatternCache

/-- The pattern of a whole text that is written as `text`. -/
def pattern? (c : PatternCache) (text : String) : Option Pattern × PatternCache :=
  c.read? Pattern.readAnew? text

/-- Whether a text matches a pattern from its first to its last character. -/
def fullMatch? (c : PatternCache) (pattern text : String) : Option Bool × PatternCache :=
  let (p, c) := c.pattern? pattern
  (p.map fun p => p.occursIn text, c)

/-- The patterns of whole texts that are written one after the other. -/
def patterns (c : PatternCache) (texts : List String) : List (Option Pattern) × PatternCache :=
  c.readAll Pattern.readAnew? texts

end PatternCache
end ExprLang
