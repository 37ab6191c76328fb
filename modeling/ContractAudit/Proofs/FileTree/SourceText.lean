import ContractAudit.FileTree.Access
import ContractAudit.Proofs.Text.LineEnds
import ContractAudit.Proofs.Text.Utf8

/-!
# The text of a source file

Whatever bytes a file holds, it is read as some text. Text in the file cannot be lost among bytes
that are no text: it is read as it is, and what stands before and behind it as if it were a file of
its own (`embedded_text_is_read`).
-/

namespace ContractAudit

namespace Text

theorem unifyNewlines_around {piece : List Char} (hPiece : piece ≠ []) (hReturn : '\r' ∉ piece)
    (hFeed : '\n' ∉ piece) (front back : List Char) :
    unifyNewlines (front ++ piece ++ back) =
      unifyNewlines front ++ piece ++ unifyNewlines back := by
  have hBehind : (front ++ piece).getLast? = some '\r' → back.head? ≠ some '\n' := by
    intro hLast
    rw [List.getLast?_append, List.getLast?_eq_some_getLast hPiece, Option.some_or,
      Option.some.injEq] at hLast
    exact absurd (hLast ▸ List.getLast_mem hPiece) hReturn
  have hBefore : front.getLast? = some '\r' → piece.head? ≠ some '\n' := by
    intro _ hFirst
    exact hFeed (List.mem_of_head? hFirst)
  rw [unifyNewlines_append hBehind, unifyNewlines_append hBefore, unifyNewlines_eq_self hReturn]

end Text

namespace FileTree

open Text (unifyNewlines)
open Text.Utf8 (decode encode decode_encode decode_around_encode)

variable {tree : FileTree} {path : String} {bytes : List UInt8}

theorem readSource_of_read (hNull : hasNull path = false)
    (hFile : tree.read (.ofText path) = .ok bytes) :
    tree.readSource path = .ok (String.ofList (unifyNewlines (decode bytes))) := by
  rw [readSource, hNull, hFile]
  rfl

theorem return_notMem_of_readSource {text : String} (h : tree.readSource path = .ok text) :
    '\r' ∉ text.toList := by
  rw [readSource] at h
  split at h
  · cases h
  · split at h
    · cases h
      rw [String.toList_ofList]
      exact Text.return_notMem_unifyNewlines _
    · cases h

theorem readSource_of_encoded {text : String} (hNull : hasNull path = false)
    (hRead : tree.read (.ofText path) = .ok (encode text.toList))
    (hReturn : '\r' ∉ text.toList) : tree.readSource path = .ok text := by
  rw [readSource_of_read hNull hRead, decode_encode, Text.unifyNewlines_eq_self hReturn,
    String.ofList_toList]

/-- A file is read without carriage returns. A piece of a line in it is read as it is, whatever
bytes surround it, and these are read as if the piece were not there. A file that holds a text is
read as that text with unified line ends. -/
theorem embedded_text_is_read (hNull : hasNull path = false)
    (hFile : tree.read (.ofText path) = .ok bytes) :
    (∃ text, tree.readSource path = .ok text ∧ '\r' ∉ text.toList) ∧
      (∀ front piece back, bytes = front ++ encode piece ++ back → piece ≠ [] → '\r' ∉ piece →
        '\n' ∉ piece →
        tree.readSource path = .ok (String.ofList
          (unifyNewlines (decode front) ++ piece ++ unifyNewlines (decode back)))) ∧
      ∀ text, bytes = encode text →
        tree.readSource path = .ok (String.ofList (unifyNewlines text)) := by
  have hRead := readSource_of_read hNull hFile
  refine ⟨⟨_, hRead, return_notMem_of_readSource hRead⟩, ?_, ?_⟩
  · intro front piece back hBytes hPiece hReturn hFeed
    rw [hRead, hBytes, decode_around_encode hPiece,
      Text.unifyNewlines_around hPiece hReturn hFeed]
  · intro text hBytes
    rw [hRead, hBytes, decode_encode]

/-- A carriage return and the first two bytes of a character of three stand before the call, and
behind it a byte of no character, a line end of two characters and a byte that continues nothing. -/
def scattered : List UInt8 :=
  [0x0D, 0xE2, 0x82] ++ encode "kill();".toList ++ [0xF5, 0x0D, 0x0A, 0x80]

theorem embedded_text_is_read_scattered :
    hasNull "a.sol" = false ∧
      FileTree.read ⟨[(["a.sol"], .file scattered)]⟩ (.ofText "a.sol") = .ok scattered ∧
      "kill();".toList ≠ [] ∧ '\r' ∉ "kill();".toList ∧ '\n' ∉ "kill();".toList ∧
      FileTree.readSource ⟨[(["a.sol"], .file scattered)]⟩ "a.sol" =
        .ok "\n\uFFFDkill();\uFFFD\n\uFFFD" := by
  have hNull : hasNull "a.sol" = false := rfl
  have hFile : FileTree.read ⟨[(["a.sol"], .file scattered)]⟩ (.ofText "a.sol") = .ok scattered :=
    rfl
  have hPiece : "kill();".toList ≠ [] := by decide
  have hReturn : '\r' ∉ "kill();".toList := by decide
  have hFeed : '\n' ∉ "kill();".toList := by decide
  exact ⟨hNull, hFile, hPiece, hReturn, hFeed,
    (embedded_text_is_read hNull hFile).2.1 _ _ _ rfl hPiece hReturn hFeed⟩

end FileTree

end ContractAudit
