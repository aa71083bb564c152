import LineBridge.Register
import LineBridge.Remote.Operation
import LineBridge.Text.Quoted
import LineBridge.Text.Utf8

/-! Everything that can go wrong, as causes. `Fault.message` holds all the wording, and
`Fault.isFatal` says after which faults a link must be reset before it is used again. -/

namespace LineBridge

/-- Why a link gave up. -/
inductive LinkFault where
  | noRegister (reg : UInt8)
  | underrun (wanted buffered : Nat)
  | unknownOperation (code : UInt8)
  | refused (op : Remote.Operation) (addr : UInt32)
  | shortDelivery (delivered wanted : Nat)
  | shortReceive (received wanted : Nat)
  | endOfStream
  | down
  | injected
  | scriptExhausted
  | badEndpoint
  | badNumber
  | zeroTimeout
  | other (reason : String)
deriving DecidableEq, Repr

/-- Which alignment rule a request breaks. -/
inductive Misalignment where
  | line
  | noLines
  | payload
  | word
  | other (reason : String)
deriving DecidableEq, Repr

/-- Why a file could not be read. -/
inductive FileFault where
  | missing
  | isDirectory
  | notDirectory
  | nameTooLong
  | notText
  | other (reason : String)
deriving DecidableEq, Repr

/-- Why a file is not an image that can be loaded. -/
inductive ImageFault where
  | tooShort
  | unknownMagic
  | notElf (kind : String)
  | headerCutShort
  | unsupportedHeader
  | sectionZeroEntrySize
  | sectionZeroOutside
  | segmentCountUnknown
  | segmentEntrySize
  | segmentTableOutside
  | sectionTableOutside
  | noNameTable
  | badNameTable
  | nameTableSize
  | symbolTableData
  | symbolNamesIndex
  | symbolNamesKind
  | symbolNamesSize
  | symbolIndexData
  | relocationTarget
  | relocationOfRelocation
  | segmentOverrunsFile (addr : Nat)
  | segmentLargerInFile (addr : Nat)
  | noSegments
  | file (path : String) (cause : FileFault)
  | other (reason : String)
deriving DecidableEq, Repr

/-- Which of the two batch sizes. -/
inductive BatchField where
  | read
  | write
deriving DecidableEq, Repr

/-- Which of the two control words. -/
inductive ControlField where
  | programCounter
  | reset
deriving DecidableEq, Repr

/-- Why settings, or data given on a command line, are refused. -/
inductive SettingsFault where
  | undecodable
  | batchSize (field : BatchField) (got : Nat)
  | pageSize (got : Nat)
  | controlAlignment (field : ControlField) (got : UInt32)
  | zeroFrame
  | chunkTooLarge (got : Nat)
  | hexLength
  | hexByte (pair : Bytes)
  | file (path : String) (cause : FileFault)
  | other (reason : String)
deriving DecidableEq, Repr

/-- Why an operation failed. -/
inductive Fault where
  | link (cause : LinkFault)
  | timeout (reg : UInt8) (addr : Addr) (expected last : UInt16) (attempts : Nat)
  | size (addr : Addr) (expected actual : Nat)
  | misaligned (addr len : Nat) (rule : Misalignment)
  | device (addr : Addr) (status : UInt8)
  | tooLarge (len max : Nat)
  | outOfRange (addr len : Nat)
  | mismatch (addr : Addr) (wrote read : UInt8)
  | notLoaded
  | image (cause : ImageFault)
  | settings (cause : SettingsFault)
  /-- A sum left its word. This is not reported: the program stops where it happens. -/
  | overflow
deriving DecidableEq, Repr

def LinkFault.message : LinkFault → String
  | noRegister reg => "no register at " ++ Hex.byte reg
  | underrun wanted buffered =>
    "bulk read of " ++ toString wanted ++ " bytes with " ++ toString buffered ++ " buffered"
  | unknownOperation code => "unknown command type " ++ Hex.byte code
  | refused op addr =>
    "peer rejected " ++ op.text ++ " (addr " ++ Hex.short addr.toNat ++ ")"
  | shortDelivery delivered wanted =>
    "bulk read delivered " ++ toString delivered ++ " of " ++ toString wanted ++ " bytes"
  | shortReceive received wanted =>
    "mpsse read returned " ++ toString received ++ " of " ++ toString wanted ++ " bytes"
  | endOfStream => "failed to fill whole buffer"
  | down => "link down"
  | injected => "injected"
  | scriptExhausted => "script exhausted"
  | badEndpoint => "invalid socket address"
  | badNumber => "invalid port value"
  | zeroTimeout => "cannot set a 0 duration timeout"
  | other reason => reason

def Misalignment.message : Misalignment → String
  | line => "address is not line aligned"
  | noLines => "line count must be nonzero"
  | payload => "payload is not the declared number of lines"
  | word => "word access is not 4-byte aligned"
  | other reason => reason

def FileFault.message : FileFault → String
  | missing => "No such file or directory (os error 2)"
  | isDirectory => "Is a directory (os error 21)"
  | notDirectory => "Not a directory (os error 20)"
  | nameTooLong => "File name too long (os error 36)"
  | notText => "stream did not contain valid UTF-8"
  | other reason => reason

def ImageFault.message : ImageFault → String
  | tooShort => "Could not read file magic"
  | unknownMagic => "Unknown file magic"
  | notElf kind => "not an ELF file (" ++ kind ++ ")"
  | headerCutShort => "Invalid ELF header size or alignment"
  | unsupportedHeader => "Unsupported ELF header"
  | sectionZeroEntrySize => "Invalid ELF section header entry size"
  | sectionZeroOutside => "Invalid ELF section header offset or size"
  | segmentCountUnknown => "Missing ELF section headers for e_phnum overflow"
  | segmentEntrySize => "Invalid ELF program header entry size"
  | segmentTableOutside => "Invalid ELF program header size or alignment"
  | sectionTableOutside => "Invalid ELF section header offset/size/alignment"
  | noNameTable => "Missing ELF e_shstrndx"
  | badNameTable => "Invalid ELF e_shstrndx"
  | nameTableSize => "Invalid ELF shstrtab size"
  | symbolTableData => "Invalid ELF symbol table data"
  | symbolNamesIndex => "Invalid ELF section index"
  | symbolNamesKind => "Invalid ELF string section type"
  | symbolNamesSize => "Invalid ELF string section offset or size"
  | symbolIndexData => "Invalid ELF symtab_shndx data"
  | relocationTarget => "Invalid ELF sh_info for relocation section"
  | relocationOfRelocation => "Unsupported ELF sh_info for relocation section"
  | segmentOverrunsFile addr => "segment at " ++ Hex.short addr ++ " overruns the file"
  | segmentLargerInFile addr =>
    "segment at " ++ Hex.short addr ++ " has file size above memory size"
  | noSegments => "no loadable segments"
  | file path cause => path ++ ": " ++ cause.message
  | other reason => reason

def BatchField.text : BatchField → String
  | read => "transfer.read_batch_bytes"
  | write => "transfer.write_batch_bytes"

def ControlField.text : ControlField → String
  | programCounter => "control.pc_address"
  | reset => "control.reset_address"

def SettingsFault.message : SettingsFault → String
  | undecodable => "malformed document"
  | batchSize field got =>
    field.text ++ " must be a multiple of 16 in 16..=65520, got " ++ toString got
  | pageSize got =>
    "transfer.load_page_bytes must be a nonzero multiple of 16, got " ++ toString got
  | controlAlignment field got =>
    field.text ++ " must be 4-byte aligned, got " ++ Hex.short got.toNat
  | zeroFrame => "link frame sizes must be nonzero"
  | chunkTooLarge got => "link.mpsse_max_chunk must be at most 65535, got " ++ toString got
  | hexLength => "hex data must be a non-empty, even number of digits"
  | hexByte pair => "invalid hex byte " ++ Quoted.text (Utf8.shown pair)
  | file path cause => path ++ ": " ++ cause.message
  | other reason => reason

def Fault.message : Fault → String
  | link cause => "transport failure: " ++ cause.message
  | timeout reg addr expected last attempts =>
    "timed out polling " ++ Register.name reg ++ " for " ++ addr.text ++ ": expected " ++
      Hex.short expected.toNat ++ ", last read " ++ Hex.short last.toNat ++ " after " ++
      toString attempts ++ " polls"
  | size addr expected actual =>
    "size mismatch at " ++ addr.text ++ ": expected " ++ toString expected ++
      " bytes, device reported " ++ toString actual
  | misaligned addr len rule =>
    "alignment violation at " ++ Hex.short addr ++ " (+" ++ toString len ++ " bytes): " ++
      rule.message
  | device addr status =>
    "device reported error status " ++ Hex.byte status ++ " for " ++ addr.text
  | tooLarge len max =>
    "transfer of " ++ toString len ++ " bytes exceeds the " ++ toString max ++ "-byte limit"
  | outOfRange addr len =>
    "request at " ++ Hex.short addr ++ " (+" ++ toString len ++
      " bytes) leaves the 32-bit address space"
  | mismatch addr wrote read =>
    "verify failed at " ++ addr.text ++ ": wrote " ++ Hex.byte wrote ++ ", read " ++
      Hex.byte read
  | notLoaded => "no image has been loaded"
  | image cause => "invalid image: " ++ cause.message
  | settings cause => "invalid configuration: " ++ cause.message
  | overflow => "attempt to add with overflow"

/-- After a broken link, or a delivery of another size than was agreed, host and device no
longer know where they stand. -/
def Fault.isFatal : Fault → Bool
  | link _ | size .. => true
  | _ => false

end LineBridge
