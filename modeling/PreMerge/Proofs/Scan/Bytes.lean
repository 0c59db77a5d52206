import PreMerge.Proofs.Rule.Lines
import PreMerge.Proofs.Text.Utf8
import PreMerge.Scan.Findings

/-! From the bytes of a file to the lines that rules are held against. Cutting the bytes at line feeds and then
reading each part as UTF-8 gives the same lines as reading first (`physicalLines_decode`). So the number of a line
counts line feeds among the bytes, and no byte that is dropped takes another one with it
(`lines_read_from_bytes`). -/

namespace PreMerge

namespace Text

/-- The lines of bytes, each read by itself. -/
theorem physicalLines_decode (bytes : List UInt8) : physicalLines (Utf8.decode bytes) =
    (dropEmptyLast ((pieces 0x0A bytes).map Utf8.decode)).map dropReturn := by
  rw [physicalLines, Utf8.pieces_decode]

/-- A line is read from the bytes between two line feeds. -/
theorem exists_bytes_of_line {bytes : List UInt8} {index : Nat} {line : List Char}
    (h : (physicalLines (Utf8.decode bytes))[index]? = some line) :
    ∃ before segment after, bytes = before ++ segment ++ after ∧ 0x0A ∉ segment ∧ before.count 0x0A = index ∧
      (before = [] ∨ before.getLast? = some 0x0A) ∧ (after = [] ∨ after.head? = some 0x0A) ∧
      line = dropReturn (Utf8.decode segment) := by
  obtain ⟨piece, hpiece, rfl⟩ := exists_piece_of_line h
  rw [Utf8.pieces_decode, List.getElem?_map, Option.map_eq_some_iff] at hpiece
  obtain ⟨segment, hsegment, rfl⟩ := hpiece
  obtain ⟨before, after, hbytes, hwhole, hcount, hbefore, hafter⟩ := exists_around_piece hsegment
  exact ⟨before, segment, after, hbytes, hwhole, hcount, hbefore, hafter, rfl⟩

end Text

namespace Scan

open Text.Utf8 (decode Reads)

/-- The lines of a file that is read are cut from its bytes at line feeds, and each part is read by itself, so the
number of a reported line is one more than the line feeds before it. Reading drops just what cannot be read, and
nothing below 0x80. -/
theorem lines_read_from_bytes (rules : List Rule) {tree : FileTree} {base : Option Path} {file : String}
    {naming : Encoding} {bytes : List UInt8} (hfile : isExempt (.ofString file) = false)
    (hname : naming.fault? (placeOf base file).text = none) (hread : tree.read (placeOf base file) = .ok bytes) :
    let content := decode bytes
    let lines := (Text.dropEmptyLast ((Text.pieces 0x0A bytes).map decode)).map Text.dropReturn
    examine rules tree base file naming = .ok (.read (PreMerge.violations rules content file)) ∧
    Text.physicalLines content = lines ∧
    (∀ rule : Rule, rule.scope = .line → rule.violations content file =
      (Rule.linesWith rule.matcher 1 lines).map fun found =>
        ⟨file, rule.name, some found.1, String.ofList found.2⟩) ∧
    (∀ violation ∈ PreMerge.violations rules content file, ∀ number, violation.line = some number →
      ∃ before segment after, bytes = before ++ segment ++ after ∧ 0x0A ∉ segment ∧
        (before = [] ∨ before.getLast? = some 0x0A) ∧ (after = [] ∨ after.head? = some 0x0A) ∧
        number = before.count 0x0A + 1 ∧
        violation.snippet = String.ofList (Text.dropReturn (decode segment))) ∧
    (∀ part text, decode part = text ↔ Reads part text) ∧
    (∀ (x y : List UInt8) (a : UInt8), a < 0x80 →
      decode (x ++ [a] ++ y) = decode x ++ [Char.ofNat a.toNat] ++ decode y) ∧
    ∀ x y run : List UInt8, run ≠ [] → (∀ a ∈ run, a < 0x80) →
      decode (x ++ run ++ y) = decode x ++ (run.map fun a => Char.ofNat a.toNat) ++ decode y := by
  intro content lines
  have hlines : Text.physicalLines content = lines := Text.physicalLines_decode bytes
  refine ⟨?_, hlines, ?_, ?_, fun part text => Text.Utf8.decode_eq_iff, ?_, ?_⟩
  · rw [examine, hfile, contentOf, hname]
    dsimp only
    rw [hread]
    rfl
  · intro rule hscope
    rw [Rule.violations_of_line hscope, hlines]
  · intro violation hviolation number hnumber
    obtain ⟨line, hpos, hline, hsnippet⟩ := Rule.exists_line_of_mem_violations hviolation hnumber
    obtain ⟨before, segment, after, hbytes, hwhole, hcount, hbefore, hafter, rfl⟩ :=
      Text.exists_bytes_of_line hline
    exact ⟨before, segment, after, hbytes, hwhole, hbefore, hafter, by omega, hsnippet⟩
  · intro x y a ha
    rw [Text.Utf8.decode_append_run x y (List.cons_ne_nil a []) (List.forall_mem_singleton.mpr ha)]
    rfl
  · intro x y run hne hrun
    exact Text.Utf8.decode_append_run x y hne hrun

/-- A character that is cut off by a line feed, one that is cut off by a word, and a surrogate at the end. -/
theorem lines_read_from_bytes_of_broken_characters :
    let bytes : List UInt8 := [0xE2, 0x82, 0x0A, 0x78, 0x20, 0xF0, 0x9F, 0x61, 0x73, 0x20, 0x61, 0x6E, 0x79,
      0x0D, 0x0A, 0xED, 0xA0, 0x80]
    let tree : FileTree := ⟨.directory [("a.ts", .ofBytes bytes)], [], Path.isAmong []⟩
    examine Rule.standard tree none "a.ts" = .ok (.read [⟨"a.ts", "'as any'", some 2, "x as any"⟩]) ∧
    Text.physicalLines (decode bytes) = [[], "x as any".toList] := by
  intro bytes tree
  obtain ⟨hexamine, hlines, -⟩ := @lines_read_from_bytes Rule.standard tree none "a.ts" {} bytes
    (by decide +kernel) (by decide +kernel) (by decide +kernel)
  refine ⟨?_, ?_⟩
  · rw [hexamine]
    decide +kernel
  · rw [hlines]
    decide +kernel

end Scan

end PreMerge
