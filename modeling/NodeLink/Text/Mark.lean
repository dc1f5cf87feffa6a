import NodeLink.Text.CodeTable
/-!
# Marks

The characters that combine with the one before them, as Unicode's
`General_Category` lists them: those that take no room of their own, and those
that do.
-/

namespace NodeLink.Text

inductive MarkKind
  | nonspacing
  | spacing
  deriving DecidableEq, Repr

def MarkKind.ofText? : List Char → Option MarkKind
  | ['=', 'N'] => some .nonspacing
  | ['=', 'S'] => some .spacing
  | _ => none

/-- The categories `Mn` and `Me`, written `N`, and the category `Mc`, written
`S`. -/
def marks : CodeTable MarkKind := .ofText MarkKind.ofText? "
  300..36F=N 483..489=N 591..5BD=N 5BF=N 5C1..5C2=N 5C4..5C5=N 5C7=N 610..61A=N 64B..65F=N 670=N
  6D6..6DC=N 6DF..6E4=N 6E7..6E8=N 6EA..6ED=N 711=N 730..74A=N 7A6..7B0=N 7EB..7F3=N 7FD=N
  816..819=N 81B..823=N 825..827=N 829..82D=N 859..85B=N 897..89F=N 8CA..8E1=N 8E3..902=N 903=S
  93A=N 93B=S 93C=N 93E..940=S 941..948=N 949..94C=S 94D=N 94E..94F=S 951..957=N 962..963=N
  981=N 982..983=S 9BC=N 9BE..9C0=S 9C1..9C4=N 9C7..9C8=S 9CB..9CC=S 9CD=N 9D7=S 9E2..9E3=N
  9FE=N A01..A02=N A03=S A3C=N A3E..A40=S A41..A42=N A47..A48=N A4B..A4D=N A51=N A70..A71=N
  A75=N A81..A82=N A83=S ABC=N ABE..AC0=S AC1..AC5=N AC7..AC8=N AC9=S ACB..ACC=S ACD=N
  AE2..AE3=N AFA..AFF=N B01=N B02..B03=S B3C=N B3E=S B3F=N B40=S B41..B44=N B47..B48=S
  B4B..B4C=S B4D=N B55..B56=N B57=S B62..B63=N B82=N BBE..BBF=S BC0=N BC1..BC2=S BC6..BC8=S
  BCA..BCC=S BCD=N BD7=S C00=N C01..C03=S C04=N C3C=N C3E..C40=N C41..C44=S C46..C48=N
  C4A..C4D=N C55..C56=N C62..C63=N C81=N C82..C83=S CBC=N CBE=S CBF=N CC0..CC4=S CC6=N
  CC7..CC8=S CCA..CCB=S CCC..CCD=N CD5..CD6=S CE2..CE3=N CF3=S D00..D01=N D02..D03=S D3B..D3C=N
  D3E..D40=S D41..D44=N D46..D48=S D4A..D4C=S D4D=N D57=S D62..D63=N D81=N D82..D83=S DCA=N
  DCF..DD1=S DD2..DD4=N DD6=N DD8..DDF=S DF2..DF3=S E31=N E34..E3A=N E47..E4E=N EB1=N EB4..EBC=N
  EC8..ECE=N F18..F19=N F35=N F37=N F39=N F3E..F3F=S F71..F7E=N F7F=S F80..F84=N F86..F87=N
  F8D..F97=N F99..FBC=N FC6=N 102B..102C=S 102D..1030=N 1031=S 1032..1037=N 1038=S 1039..103A=N
  103B..103C=S 103D..103E=N 1056..1057=S 1058..1059=N 105E..1060=N 1062..1064=S 1067..106D=S
  1071..1074=N 1082=N 1083..1084=S 1085..1086=N 1087..108C=S 108D=N 108F=S 109A..109C=S 109D=N
  135D..135F=N 1712..1714=N 1715=S 1732..1733=N 1734=S 1752..1753=N 1772..1773=N 17B4..17B5=N
  17B6=S 17B7..17BD=N 17BE..17C5=S 17C6=N 17C7..17C8=S 17C9..17D3=N 17DD=N 180B..180D=N 180F=N
  1885..1886=N 18A9=N 1920..1922=N 1923..1926=S 1927..1928=N 1929..192B=S 1930..1931=S 1932=N
  1933..1938=S 1939..193B=N 1A17..1A18=N 1A19..1A1A=S 1A1B=N 1A55=S 1A56=N 1A57=S 1A58..1A5E=N
  1A60=N 1A61=S 1A62=N 1A63..1A64=S 1A65..1A6C=N 1A6D..1A72=S 1A73..1A7C=N 1A7F=N 1AB0..1ADD=N
  1AE0..1AEB=N 1B00..1B03=N 1B04=S 1B34=N 1B35=S 1B36..1B3A=N 1B3B=S 1B3C=N 1B3D..1B41=S 1B42=N
  1B43..1B44=S 1B6B..1B73=N 1B80..1B81=N 1B82=S 1BA1=S 1BA2..1BA5=N 1BA6..1BA7=S 1BA8..1BA9=N
  1BAA=S 1BAB..1BAD=N 1BE6=N 1BE7=S 1BE8..1BE9=N 1BEA..1BEC=S 1BED=N 1BEE=S 1BEF..1BF1=N
  1BF2..1BF3=S 1C24..1C2B=S 1C2C..1C33=N 1C34..1C35=S 1C36..1C37=N 1CD0..1CD2=N 1CD4..1CE0=N
  1CE1=S 1CE2..1CE8=N 1CED=N 1CF4=N 1CF7=S 1CF8..1CF9=N 1DC0..1DFF=N 20D0..20F0=N 2CEF..2CF1=N
  2D7F=N 2DE0..2DFF=N 302A..302D=N 302E..302F=S 3099..309A=N A66F..A672=N A674..A67D=N
  A69E..A69F=N A6F0..A6F1=N A802=N A806=N A80B=N A823..A824=S A825..A826=N A827=S A82C=N
  A880..A881=S A8B4..A8C3=S A8C4..A8C5=N A8E0..A8F1=N A8FF=N A926..A92D=N A947..A951=N
  A952..A953=S A980..A982=N A983=S A9B3=N A9B4..A9B5=S A9B6..A9B9=N A9BA..A9BB=S A9BC..A9BD=N
  A9BE..A9C0=S A9E5=N AA29..AA2E=N AA2F..AA30=S AA31..AA32=N AA33..AA34=S AA35..AA36=N AA43=N
  AA4C=N AA4D=S AA7B=S AA7C=N AA7D=S AAB0=N AAB2..AAB4=N AAB7..AAB8=N AABE..AABF=N AAC1=N AAEB=S
  AAEC..AAED=N AAEE..AAEF=S AAF5=S AAF6=N ABE3..ABE4=S ABE5=N ABE6..ABE7=S ABE8=N ABE9..ABEA=S
  ABEC=S ABED=N FB1E=N FE00..FE0F=N FE20..FE2F=N 101FD=N 102E0=N 10376..1037A=N 10A01..10A03=N
  10A05..10A06=N 10A0C..10A0F=N 10A38..10A3A=N 10A3F=N 10AE5..10AE6=N 10D24..10D27=N
  10D69..10D6D=N 10EAB..10EAC=N 10EFA..10EFF=N 10F46..10F50=N 10F82..10F85=N 11000=S 11001=N
  11002=S 11038..11046=N 11070=N 11073..11074=N 1107F..11081=N 11082=S 110B0..110B2=S
  110B3..110B6=N 110B7..110B8=S 110B9..110BA=N 110C2=N 11100..11102=N 11127..1112B=N 1112C=S
  1112D..11134=N 11145..11146=S 11173=N 11180..11181=N 11182=S 111B3..111B5=S 111B6..111BE=N
  111BF..111C0=S 111C9..111CC=N 111CE=S 111CF=N 1122C..1122E=S 1122F..11231=N 11232..11233=S
  11234=N 11235=S 11236..11237=N 1123E=N 11241=N 112DF=N 112E0..112E2=S 112E3..112EA=N
  11300..11301=N 11302..11303=S 1133B..1133C=N 1133E..1133F=S 11340=N 11341..11344=S
  11347..11348=S 1134B..1134D=S 11357=S 11362..11363=S 11366..1136C=N 11370..11374=N
  113B8..113BA=S 113BB..113C0=N 113C2=S 113C5=S 113C7..113CA=S 113CC..113CD=S 113CE=N 113CF=S
  113D0=N 113D2=N 113E1..113E2=N 11435..11437=S 11438..1143F=N 11440..11441=S 11442..11444=N
  11445=S 11446=N 1145E=N 114B0..114B2=S 114B3..114B8=N 114B9=S 114BA=N 114BB..114BE=S
  114BF..114C0=N 114C1=S 114C2..114C3=N 115AF..115B1=S 115B2..115B5=N 115B8..115BB=S
  115BC..115BD=N 115BE=S 115BF..115C0=N 115DC..115DD=N 11630..11632=S 11633..1163A=N
  1163B..1163C=S 1163D=N 1163E=S 1163F..11640=N 116AB=N 116AC=S 116AD=N 116AE..116AF=S
  116B0..116B5=N 116B6=S 116B7=N 1171D=N 1171E=S 1171F=N 11720..11721=S 11722..11725=N 11726=S
  11727..1172B=N 1182C..1182E=S 1182F..11837=N 11838=S 11839..1183A=N 11930..11935=S
  11937..11938=S 1193B..1193C=N 1193D=S 1193E=N 11940=S 11942=S 11943=N 119D1..119D3=S
  119D4..119D7=N 119DA..119DB=N 119DC..119DF=S 119E0=N 119E4=S 11A01..11A0A=N 11A33..11A38=N
  11A39=S 11A3B..11A3E=N 11A47=N 11A51..11A56=N 11A57..11A58=S 11A59..11A5B=N 11A8A..11A96=N
  11A97=S 11A98..11A99=N 11B60=N 11B61=S 11B62..11B64=N 11B65=S 11B66=N 11B67=S 11C2F=S
  11C30..11C36=N 11C38..11C3D=N 11C3E=S 11C3F=N 11C92..11CA7=N 11CA9=S 11CAA..11CB0=N 11CB1=S
  11CB2..11CB3=N 11CB4=S 11CB5..11CB6=N 11D31..11D36=N 11D3A=N 11D3C..11D3D=N 11D3F..11D45=N
  11D47=N 11D8A..11D8E=S 11D90..11D91=N 11D93..11D94=S 11D95=N 11D96=S 11D97=N 11EF3..11EF4=N
  11EF5..11EF6=S 11F00..11F01=N 11F03=S 11F34..11F35=S 11F36..11F3A=N 11F3E..11F3F=S 11F40=N
  11F41=S 11F42=N 11F5A=N 13440=N 13447..13455=N 1611E..16129=N 1612A..1612C=S 1612D..1612F=N
  16AF0..16AF4=N 16B30..16B36=N 16F4F=N 16F51..16F87=S 16F8F..16F92=N 16FE4=N 16FF0..16FF1=S
  1BC9D..1BC9E=N 1CF00..1CF2D=N 1CF30..1CF46=N 1D165..1D166=S 1D167..1D169=N 1D16D..1D172=S
  1D17B..1D182=N 1D185..1D18B=N 1D1AA..1D1AD=N 1D242..1D244=N 1DA00..1DA36=N 1DA3B..1DA6C=N
  1DA75=N 1DA84=N 1DA9B..1DA9F=N 1DAA1..1DAAF=N 1E000..1E006=N 1E008..1E018=N 1E01B..1E021=N
  1E023..1E024=N 1E026..1E02A=N 1E08F=N 1E130..1E136=N 1E2AE=N 1E2EC..1E2EF=N 1E4EC..1E4EF=N
  1E5EE..1E5EF=N 1E6E3=N 1E6E6=N 1E6EE..1E6EF=N 1E6F5=N 1E8D0..1E8D6=N 1E944..1E94A=N
  E0100..E01EF=N"

def markKind? (c : Char) : Option MarkKind :=
  if c.toNat < 0x300 then none else marks.value? c.toNat

def isMark (c : Char) : Bool := (markKind? c).isSome

def isNonspacing (c : Char) : Bool := markKind? c == some .nonspacing

end NodeLink.Text
