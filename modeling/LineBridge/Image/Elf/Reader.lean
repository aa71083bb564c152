import LineBridge.Image.Elf.Format

/-! What is asked of a reader of object files. It tells what kind of file it has been given, and of
an ELF file the entry point, the program header table, and the bytes of a header. -/

namespace LineBridge.Elf

inductive FileKind where
  | elf (width : Width)
  | other (name : String)
deriving DecidableEq, Repr

/-- A reader may refuse a file for causes of its own. -/
structure Reader where
  kindOf : Bytes → Except ImageFault FileKind
  /-- Entry point and program headers of a file with records of that size class. -/
  tables : Width → Bytes → Except ImageFault (Nat × List ProgramHeader)
  /-- The bytes of a header in its file, if the file has them all. -/
  data : Bytes → ProgramHeader → Option Bytes

end LineBridge.Elf
