import NodeLink.Text.CodeTable
/-!
# The repertoire of domains

The characters that a domain may be written with, before capital letters and
other forms of a character are replaced.
-/

namespace NodeLink.Address.Domain

open NodeLink.Text

def repertoire : CodeTable Unit := .ofText (fun _ => some ()) "
  0..7F A0..377 37A..37F 384..38A 38C 38E..3A1 3A3..52F 531..556 559..58A 58D..58F 591..5C7
  5D0..5EA 5EF..5F4 606..61B 61D..6DC 6DE..70D 710..74A 74D..7B1 7C0..7FA 7FD..82D 830..83E
  840..85B 85E 860..86A 870..88F 897..8E1 8E3..983 985..98C 98F..990 993..9A8 9AA..9B0 9B2
  9B6..9B9 9BC..9C4 9C7..9C8 9CB..9CE 9D7 9DC..9DD 9DF..9E3 9E6..9FE A01..A03 A05..A0A A0F..A10
  A13..A28 A2A..A30 A32..A33 A35..A36 A38..A39 A3C A3E..A42 A47..A48 A4B..A4D A51 A59..A5C A5E
  A66..A76 A81..A83 A85..A8D A8F..A91 A93..AA8 AAA..AB0 AB2..AB3 AB5..AB9 ABC..AC5 AC7..AC9
  ACB..ACD AD0 AE0..AE3 AE6..AF1 AF9..AFF B01..B03 B05..B0C B0F..B10 B13..B28 B2A..B30 B32..B33
  B35..B39 B3C..B44 B47..B48 B4B..B4D B55..B57 B5C..B5D B5F..B63 B66..B77 B82..B83 B85..B8A
  B8E..B90 B92..B95 B99..B9A B9C B9E..B9F BA3..BA4 BA8..BAA BAE..BB9 BBE..BC2 BC6..BC8 BCA..BCD
  BD0 BD7 BE6..BFA C00..C0C C0E..C10 C12..C28 C2A..C39 C3C..C44 C46..C48 C4A..C4D C55..C56
  C58..C5A C5C..C5D C60..C63 C66..C6F C77..C8C C8E..C90 C92..CA8 CAA..CB3 CB5..CB9 CBC..CC4
  CC6..CC8 CCA..CCD CD5..CD6 CDC..CDE CE0..CE3 CE6..CEF CF1..CF3 D00..D0C D0E..D10 D12..D44
  D46..D48 D4A..D4F D54..D63 D66..D7F D81..D83 D85..D96 D9A..DB1 DB3..DBB DBD DC0..DC6 DCA
  DCF..DD4 DD6 DD8..DDF DE6..DEF DF2..DF4 E01..E3A E3F..E5B E81..E82 E84 E86..E8A E8C..EA3 EA5
  EA7..EBD EC0..EC4 EC6 EC8..ECE ED0..ED9 EDC..EDF F00..F47 F49..F6C F71..F97 F99..FBC FBE..FCC
  FCE..FDA 1000..10C5 10C7 10CD 10D0..1248 124A..124D 1250..1256 1258 125A..125D 1260..1288
  128A..128D 1290..12B0 12B2..12B5 12B8..12BE 12C0 12C2..12C5 12C8..12D6 12D8..1310 1312..1315
  1318..135A 135D..137C 1380..1399 13A0..13F5 13F8..13FD 1400..167F 1681..169C 16A0..16F8
  1700..1715 171F..1736 1740..1753 1760..176C 176E..1770 1772..1773 1780..17DD 17E0..17E9
  17F0..17F9 1800..1819 1820..1878 1880..18AA 18B0..18F5 1900..191E 1920..192B 1930..193B 1940
  1944..196D 1970..1974 1980..19AB 19B0..19C9 19D0..19DA 19DE..1A1B 1A1E..1A5E 1A60..1A7C
  1A7F..1A89 1A90..1A99 1AA0..1AAD 1AB0..1ADD 1AE0..1AEB 1B00..1B4C 1B4E..1BF3 1BFC..1C37
  1C3B..1C49 1C4D..1C8A 1C90..1CBA 1CBD..1CC7 1CD0..1CFA 1D00..1F15 1F18..1F1D 1F20..1F45
  1F48..1F4D 1F50..1F57 1F59 1F5B 1F5D 1F5F..1F7D 1F80..1FB4 1FB6..1FC4 1FC6..1FD3 1FD6..1FDB
  1FDD..1FEF 1FF2..1FF4 1FF6..1FFE 2000..200D 2010..2023 2027 202F..2064 206A..2071 2074..208E
  2090..209C 20A0..20C1 20D0..20F0 2100..218B 2190..2429 2440..244A 2460..2487 249C..2B73
  2B76..2CF3 2CF9..2D25 2D27 2D2D 2D30..2D67 2D6F..2D70 2D7F..2D96 2DA0..2DA6 2DA8..2DAE
  2DB0..2DB6 2DB8..2DBE 2DC0..2DC6 2DC8..2DCE 2DD0..2DD6 2DD8..2DDE 2DE0..2E5D 2E80..2E99
  2E9B..2EF3 2F00..2FD5 3000..303F 3041..3096 3099..30FF 3105..312F 3131..318E 3190..31E5
  31F0..321E 3220..33C1 33C3..33C6 33C8..33D7 33D9..A48C A490..A4C6 A4D0..A62B A640..A6F7
  A700..A7DC A7F1..A82C A830..A839 A840..A877 A880..A8C5 A8CE..A8D9 A8E0..A953 A95F..A97C
  A980..A9CD A9CF..A9D9 A9DE..A9FE AA00..AA36 AA40..AA4D AA50..AA59 AA5C..AAC2 AADB..AAF6
  AB01..AB06 AB09..AB0E AB11..AB16 AB20..AB26 AB28..AB2E AB30..AB6B AB70..ABED ABF0..ABF9
  AC00..D7A3 D7B0..D7C6 D7CB..D7FB F900..FA6D FA70..FAD9 FB00..FB06 FB13..FB17 FB1D..FB36
  FB38..FB3C FB3E FB40..FB41 FB43..FB44 FB46..FDCF FDF0..FE11 FE13..FE18 FE20..FE2F FE31..FE51
  FE54..FE66 FE68..FE6B FE70..FE74 FE76..FEFC FEFF FF01..FFBE FFC2..FFC7 FFCA..FFCF FFD2..FFD7
  FFDA..FFDC FFE0..FFE6 FFE8..FFEE 10000..1000B 1000D..10026 10028..1003A 1003C..1003D
  1003F..1004D 10050..1005D 10080..100FA 10100..10102 10107..10133 10137..1018E 10190..1019C
  101A0 101D0..101FD 10280..1029C 102A0..102D0 102E0..102FB 10300..10323 1032D..1034A
  10350..1037A 10380..1039D 1039F..103C3 103C8..103D5 10400..1049D 104A0..104A9 104B0..104D3
  104D8..104FB 10500..10527 10530..10563 1056F..1057A 1057C..1058A 1058C..10592 10594..10595
  10597..105A1 105A3..105B1 105B3..105B9 105BB..105BC 105C0..105F3 10600..10736 10740..10755
  10760..10767 10780..10785 10787..107B0 107B2..107BA 10800..10805 10808 1080A..10835
  10837..10838 1083C 1083F..10855 10857..1089E 108A7..108AF 108E0..108F2 108F4..108F5
  108FB..1091B 1091F..10939 1093F..10959 10980..109B7 109BC..109CF 109D2..10A03 10A05..10A06
  10A0C..10A13 10A15..10A17 10A19..10A35 10A38..10A3A 10A3F..10A48 10A50..10A58 10A60..10A9F
  10AC0..10AE6 10AEB..10AF6 10B00..10B35 10B39..10B55 10B58..10B72 10B78..10B91 10B99..10B9C
  10BA9..10BAF 10C00..10C48 10C80..10CB2 10CC0..10CF2 10CFA..10D27 10D30..10D39 10D40..10D65
  10D69..10D85 10D8E..10D8F 10E60..10E7E 10E80..10EA9 10EAB..10EAD 10EB0..10EB1 10EC2..10EC7
  10ED0..10ED8 10EFA..10F27 10F30..10F59 10F70..10F89 10FB0..10FCB 10FE0..10FF6 11000..1104D
  11052..11075 1107F..110BC 110BE..110C2 110D0..110E8 110F0..110F9 11100..11134 11136..11147
  11150..11176 11180..111DF 111E1..111F4 11200..11211 11213..11241 11280..11286 11288
  1128A..1128D 1128F..1129D 1129F..112A9 112B0..112EA 112F0..112F9 11300..11303 11305..1130C
  1130F..11310 11313..11328 1132A..11330 11332..11333 11335..11339 1133B..11344 11347..11348
  1134B..1134D 11350 11357 1135D..11363 11366..1136C 11370..11374 11380..11389 1138B 1138E
  11390..113B5 113B7..113C0 113C2 113C5 113C7..113CA 113CC..113D5 113D7..113D8 113E1..113E2
  11400..1145B 1145D..11461 11480..114C7 114D0..114D9 11580..115B5 115B8..115DD 11600..11644
  11650..11659 11660..1166C 11680..116B9 116C0..116C9 116D0..116E3 11700..1171A 1171D..1172B
  11730..11746 11800..1183B 118A0..118F2 118FF..11906 11909 1190C..11913 11915..11916
  11918..11935 11937..11938 1193B..11946 11950..11959 119A0..119A7 119AA..119D7 119DA..119E4
  11A00..11A47 11A50..11AA2 11AB0..11AF8 11B00..11B09 11B60..11B67 11BC0..11BE1 11BF0..11BF9
  11C00..11C08 11C0A..11C36 11C38..11C45 11C50..11C6C 11C70..11C8F 11C92..11CA7 11CA9..11CB6
  11D00..11D06 11D08..11D09 11D0B..11D36 11D3A 11D3C..11D3D 11D3F..11D47 11D50..11D59
  11D60..11D65 11D67..11D68 11D6A..11D8E 11D90..11D91 11D93..11D98 11DA0..11DA9 11DB0..11DDB
  11DE0..11DE9 11EE0..11EF8 11F00..11F10 11F12..11F3A 11F3E..11F5A 11FB0 11FC0..11FF1
  11FFF..12399 12400..1246E 12470..12474 12480..12543 12F90..12FF2 13000..1342F 13440..13455
  13460..143FA 14400..14646 16100..16139 16800..16A38 16A40..16A5E 16A60..16A69 16A6E..16ABE
  16AC0..16AC9 16AD0..16AED 16AF0..16AF5 16B00..16B45 16B50..16B59 16B5B..16B61 16B63..16B77
  16B7D..16B8F 16D40..16D79 16E40..16E9A 16EA0..16EB8 16EBB..16ED3 16F00..16F4A 16F4F..16F87
  16F8F..16F9F 16FE0..16FE4 16FF0..16FF6 17000..18CD5 18CFF..18D1E 18D80..18DF2 1AFF0..1AFF3
  1AFF5..1AFFB 1AFFD..1AFFE 1B000..1B122 1B132 1B150..1B152 1B155 1B164..1B167 1B170..1B2FB
  1BC00..1BC6A 1BC70..1BC7C 1BC80..1BC88 1BC90..1BC99 1BC9C..1BCA3 1CC00..1CCFC 1CD00..1CEB3
  1CEBA..1CED0 1CEE0..1CEF0 1CF00..1CF2D 1CF30..1CF46 1CF50..1CFC3 1D000..1D0F5 1D100..1D126
  1D129..1D1EA 1D200..1D245 1D2C0..1D2D3 1D2E0..1D2F3 1D300..1D356 1D360..1D378 1D400..1D454
  1D456..1D49C 1D49E..1D49F 1D4A2 1D4A5..1D4A6 1D4A9..1D4AC 1D4AE..1D4B9 1D4BB 1D4BD..1D4C3
  1D4C5..1D505 1D507..1D50A 1D50D..1D514 1D516..1D51C 1D51E..1D539 1D53B..1D53E 1D540..1D544
  1D546 1D54A..1D550 1D552..1D6A5 1D6A8..1D7CB 1D7CE..1DA8B 1DA9B..1DA9F 1DAA1..1DAAF
  1DF00..1DF1E 1DF25..1DF2A 1E000..1E006 1E008..1E018 1E01B..1E021 1E023..1E024 1E026..1E02A
  1E030..1E06D 1E08F 1E100..1E12C 1E130..1E13D 1E140..1E149 1E14E..1E14F 1E290..1E2AE
  1E2C0..1E2F9 1E2FF 1E4D0..1E4F9 1E5D0..1E5FA 1E5FF 1E6C0..1E6DE 1E6E0..1E6F5 1E6FE..1E6FF
  1E7E0..1E7E6 1E7E8..1E7EB 1E7ED..1E7EE 1E7F0..1E7FE 1E800..1E8C4 1E8C7..1E8D6 1E900..1E94B
  1E950..1E959 1E95E..1E95F 1EC71..1ECB4 1ED01..1ED3D 1EE00..1EE03 1EE05..1EE1F 1EE21..1EE22
  1EE24 1EE27 1EE29..1EE32 1EE34..1EE37 1EE39 1EE3B 1EE42 1EE47 1EE49 1EE4B 1EE4D..1EE4F
  1EE51..1EE52 1EE54 1EE57 1EE59 1EE5B 1EE5D 1EE5F 1EE61..1EE62 1EE64 1EE67..1EE6A 1EE6C..1EE72
  1EE74..1EE77 1EE79..1EE7C 1EE7E 1EE80..1EE89 1EE8B..1EE9B 1EEA1..1EEA3 1EEA5..1EEA9
  1EEAB..1EEBB 1EEF0..1EEF1 1F000..1F02B 1F030..1F093 1F0A0..1F0AE 1F0B1..1F0BF 1F0C1..1F0CF
  1F0D1..1F0F5 1F101..1F1AD 1F1E6..1F202 1F210..1F23B 1F240..1F248 1F250..1F251 1F260..1F265
  1F300..1F6D8 1F6DC..1F6EC 1F6F0..1F6FC 1F700..1F7D9 1F7E0..1F7EB 1F7F0 1F800..1F80B
  1F810..1F847 1F850..1F859 1F860..1F887 1F890..1F8AD 1F8B0..1F8BB 1F8C0..1F8C1 1F8D0..1F8D8
  1F900..1FA57 1FA60..1FA6D 1FA70..1FA7C 1FA80..1FA8A 1FA8E..1FAC6 1FAC8 1FACD..1FADC
  1FADF..1FAEA 1FAEF..1FAF8 1FB00..1FB92 1FB94..1FBFA 20000..2A6DF 2A700..2B81D 2B820..2CEAD
  2CEB0..2EBE0 2EBF0..2EE5D 2F800..2FA1D 30000..3134A 31350..33479 E0100..E01EF"

def inRepertoire (c : Char) : Bool := (repertoire.value? c.toNat).isSome

end NodeLink.Address.Domain
