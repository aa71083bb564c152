/-! Text in columns: blanks fill a column on the right, and a text that is too long keeps its
length. -/

namespace LineBridge.Column

def fill (width : Nat) (text : String) : String :=
  text ++ String.ofList (List.replicate (width - text.length) ' ')

theorem length_fill (width : Nat) (text : String) :
    (fill width text).length = max width text.length := by
  simp only [fill, String.length_append, String.length_ofList, List.length_replicate]
  omega

end LineBridge.Column
