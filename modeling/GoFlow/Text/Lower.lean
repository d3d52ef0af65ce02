/-!
# Lower case of Latin letters
-/

namespace GoFlow

/-- Lower case of a Latin letter, also with an accent; the signs of the kelvin and the ångström are
letters too. Any other character stays as it is. -/
def lowerLatinChar (c : Char) : Char :=
  let n := c.toNat
  if 0xC0 ≤ n && n ≤ 0xDE && n != 0xD7 then Char.ofNat (n + 0x20)
  else if n == 0x212A then 'k'
  else if n == 0x212B then 'å'
  else c.toLower

/-- Lower case of a text. -/
def lowerLatin (s : List Char) : List Char := s.map lowerLatinChar

end GoFlow
