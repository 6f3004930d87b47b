namespace ClusterRouting.Text

-- Unicode's White_Space. Core's own test knows four of these characters.
def blankRanges : List (Nat × Nat) :=
  [(0x09, 0x0d), (0x20, 0x20), (0x85, 0x85), (0xa0, 0xa0), (0x1680, 0x1680), (0x2000, 0x200a),
   (0x2028, 0x2029), (0x202f, 0x202f), (0x205f, 0x205f), (0x3000, 0x3000)]

def inRanges (ranges : List (Nat × Nat)) (code : Nat) : Bool :=
  ranges.any fun range => range.1 ≤ code && code ≤ range.2

def isBlankChar (c : Char) : Bool := inRanges blankRanges c.toNat

-- Nothing would be left after trimming.
def isBlank (text : String) : Bool := text.toList.all isBlankChar

end ClusterRouting.Text
