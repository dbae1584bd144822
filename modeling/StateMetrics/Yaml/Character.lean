/-!
# Characters of YAML

The classes of characters by which a scalar is written in one style or another.
-/

namespace StateMetrics.Yaml

/-- Whether a character ends a line. -/
def isBreak (c : Char) : Bool :=
  c = '\n' || c = '\r' || c.toNat = 0x85 || c.toNat = 0x2028 || c.toNat = 0x2029

/-- Whether a character separates an indicator from what follows it. -/
def isSeparator (c : Char) : Bool := c = ' ' || c = '\t' || c.toNat = 0 || isBreak c

/-- Whether a character may be written as it is: neither a control other than the newline, nor a
byte order mark, nor one of the two noncharacters at the end of the basic plane. -/
def isPrintable (c : Char) : Bool :=
  let n := c.toNat
  n = 0x0A || (0x20 ≤ n && n ≤ 0x7E) || (0xA0 ≤ n && n ≤ 0xFFFD && n ≠ 0xFEFF)
    || 0x10000 ≤ n

/-- Whether two characters next to each other satisfy `p` and `q`, in this order. -/
def adjacent (p q : Char → Bool) : List Char → Bool
  | a :: b :: text => (p a && q b) || adjacent p q (b :: text)
  | _ => false

end StateMetrics.Yaml
