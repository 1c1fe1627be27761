import StreamSelect.Pattern.Size.Tally

/-! What a choice of words adds to an automaton: a tree of their bytes. A word may end where others
go on; the words before it and those after it are then apart in the tree, as the first word that fits
is preferred. -/
namespace StreamSelect.Pattern

/-- Words that go on, by their next byte. -/
abbrev WordChunk := List (Nat × List (List Nat))

/-- Adds a word to those that begin with the same byte. -/
def WordChunk.add (byte : Nat) (tail : List Nat) : WordChunk → WordChunk
  | [] => [(byte, [tail])]
  | (byte', tails) :: rest =>
    if byte = byte' then (byte', tails ++ [tail]) :: rest
    else (byte', tails) :: WordChunk.add byte tail rest

/-- The chunks of words in order, the last one first: a word that ends closes one. Words that end
before any goes on count once. -/
def wordChunks (words : List (List Nat)) : List WordChunk :=
  words.foldl (fun chunks word =>
    match word, chunks with
    | [], chunks => if chunks.all (·.isEmpty) && 1 < chunks.length then chunks else [] :: chunks
    | byte :: tail, chunk :: before => chunk.add byte tail :: before
    | _ :: _, [] => chunks) [[]]

/-- A byte is read without a choice where it is the only one. -/
def chunkTally (chunk : WordChunk) : Tally :=
  if chunk.length = 1 then .plain 1 else .reader chunk.length

/-- The tree of words of so many bytes at most, without the state in which all of them end. Where
words go on, a fork leads to their chunks, and to the end for each word that ends between them. -/
def wordTreeTally : Nat → List (List Nat) → Tally
  | 0, _ => {}
  | depth + 1, words =>
    if words.all (·.isEmpty) then {}
    else
      let chunks := wordChunks words
      let reading := chunks.filter (!·.isEmpty)
      let own := reading.foldl (fun t chunk => t + chunkTally chunk)
        (.fork (reading.length + (chunks.length - 1)))
      reading.flatten.foldl (fun t (_, tails) => t + wordTreeTally depth tails) own

def Extension.ofWords (d : Direction) (words : List (List Nat)) : Extension :=
  let words := if d = .forward then words else words.map List.reverse
  .fixed (.plain 1 + wordTreeTally ((words.map List.length).foldl max 0 + 1) words)

end StreamSelect.Pattern
