import LineBridge.Ledger
import LineBridge.Text.Column

/-! The totals as a page of text. -/

namespace LineBridge.Ledger

def percent (share : Float) : String := "(" ++ Fixed.ofFloat 2 share ++ "%)"

def line (label value : String) : String := "  " ++ Column.fill 22 label ++ value ++ "\n"

def partialShare (l : Ledger) : String :=
  let batches := l.readBatches + l.writeBatches
  if batches = 0 then line "Partial Lines:" "0"
  else line "Partial Lines:" (Column.fill 10 (toString l.partialLines) ++ " " ++
    percent (l.partialLines.toFloat / batches.toFloat * 100.0))

def phaseLine (total : Float) (label : String) (time : Nat) : String :=
  if 0.0 < total then
    "  " ++ Column.fill 20 label ++ " " ++ Column.fill 12 (Elapsed.rounded 3 time) ++ " " ++
      percent (Elapsed.seconds time / total * 100.0) ++ "\n"
  else "  " ++ Column.fill 20 label ++ " -\n"

def rule : String := "========================================================="

/-- What is the same for every run of the same commands. -/
def countsText (l : Ledger) : String :=
  "\n" ++ rule ++ "\n" ++
  "\n[Volume]\n" ++
  line "Bytes Read:" (toString l.bytesRead) ++
  line "Bytes Written:" (toString l.bytesWritten) ++
  line "Lines Moved:" (toString l.linesMoved) ++
  line "Transactions:" (toString l.transactions) ++
  "\n[Batches]\n" ++
  line "Read Batches:" (toString l.readBatches) ++
  line "Write Batches:" (toString l.writeBatches) ++
  l.partialShare

/-- Where the time went. -/
def timesText (l : Ledger) : String :=
  let total := Elapsed.seconds l.busyTime
  "\n[Phase Time]\n" ++
  phaseLine total "Prep:" l.prepTime ++
  phaseLine total "Write:" l.writeTime ++
  phaseLine total "Read:" l.readTime ++
  phaseLine total "Ack:" l.ackTime ++
  "\n[Throughput]\n" ++
  "  " ++ Column.fill 20 "Overall:" ++ " " ++ Fixed.ofFloat 1 (l.throughput / 1024.0) ++
  " KiB/s\n" ++
  rule ++ "\n\n"

def report (l : Ledger) : String := l.countsText ++ l.timesText

end LineBridge.Ledger
