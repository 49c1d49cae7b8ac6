import SourceAtlas.Python.Automaton.Templates

/-! States 800 to 1599 of the automaton, one number for each. -/
namespace SourceAtlas.Python.Automaton

def rows800 : Array Nat := #[
  0xc010178940431, 0xc010180940431, 0xc010184940431, 0xc010134940431, 0xc010094940431,
  0xc010188940431, 0xc01018c940431, 0xc010190940431, 0xc010194940431, 0xc010194940431,
  0xc010198940431, 0xc0100b8940431, 0xc01019c940431, 0xc0101a0940431, 0xc0101a4940431,
  0xc0101a8940431, 0xc0101ac940431, 0xc0101b0940431, 0xc0101b4940431, 0xc01013c940431,
  0xc0101b8940431, 0xc0101a8940431, 0xc0101bc940431, 0xc0101c0940431, 0xc0101bc940431,
  0xc0101c4940431, 0xc0101c8940431, 0xc0101cc940431, 0xc0101d0940431, 0xc0101d4940431,
  0xc0101d8940431, 0xc0101cc940431, 0xc0101c8940431, 0xc0101dc940431, 0xc0101e0940431,
  0xc0101e4940431, 0xc0101e8940431, 0xc01014c940431, 0xc0101e8940431, 0xc0101e4940431,
  0xc0101ec940431, 0xc0101f0940431, 0xc0101f4940431, 0xc0101f0940431, 0xc0101f8940431,
  alter 25 2 0x2a8001204d0000d, alter 25 2 0x2b8001204d4000d, alter 25 2 0x548001204f8000d,
  alter 25 2 0x554001204fc000d, alter 25 2 0x56c001204f0000d, alter 25 2 0x570001204f4000d,
  0xfc83617703514b03219c831176c2f19e82e19f82d3ed026000c010dd8253160240e502025e81f0ea81d36d01b36c83b2658070e700636e0031821,
  0xfc836196c3514b03219bc3119682f19e82e19f82d3ed026000c0114d8253160240e502025e81f0e481d3aa01b3a983b25c0070e20063ad8031821,
  0xfc836199c3514b03219c43119982f28642e28782d3ed026000c011588253160240e502025e81f0e901d3ac81b3ac03b2668070e58063b38031821,
  0xfc83619b03514b03219d83119ac2f28982e28a82d3ed026000c0115a8253160240e502025e81f0ec01d3b081b3b003b2670070e88063b60031821,
  0xfc83618f43514b03219dc3118f02f20f42e21042d3ed026000c0112d8253160240e502025e81f0ed81d39c81b39c03b2660070ea00639e8031821,
  0xfc83616943514b03219483116902f19882e19942d3ed026000c010d98253160240e502025e81f0ee01d33c81b33c03b2318070eb8063528031821,
  0xfc83619a83514b03219bc31141c2f3ed026000c0115a0253160240e502025e81f10881d3af81b3af03b25c00701fc441080063b50031a21,
  0xfc83619443514b03219c431141c2f3ed026000c0113e8253160240e502025e81f10881d3a801b3a783b25c00701fc611080063a88031a71,
  0xf3c361070410f5c3110d82f3df826000c010cf0252380210df82023201f10c01d28f01b28e83b25e00710b80628e04e1821,
  0xfb83614284110f83115ac2f3ec026000c010dc02523d8210e302025c81f11681d30981b30903b26200711280630504e1821,
  0xfc83614b041115431141c2f3ed026000c010d78252428210e502025e81f10881d31781b31703b25c00710800631604e1821,
  0xfd83615104111a83115dc2f3ef026000c010dc8252478210e682026001f11a01d32581b32503b26400711980632204e1821,
  0xf803612ac410ff431128c2f3f0026000c010d882524c8210e802026181f10f81d2db81b2db03b2650071200062d584e1821,
  0xf903613344110283113cc2f3f1026000c010d48252518210e982026281f12081d2e981b2e903b25f80711d0062e684e1821,
  0x10603615f04111e83115202f3f2026000c010db0252568210eb02026381f11301d34181b34103b26100710f00633e04e1821,
  0x12083616e04113ec3116d42f3f3026000c010dd02525b8210ec82026481f11d81d35e01b35d83b26300711600635c04e1821,
  alter 21 6 0x1f540010008c000e01a0000a28000005280000042ea80001,
  0xf3c361070410f4c3110d82f3df826000c010cf0250df82023201f10c01d28f01b28e83b25e00710b80628e04e1621,
  alter 21 6 0x23c00100078000e0020000a03c8000503d8000400400001,
  alter 21 6 0xfd400100078000e1848000a09000005090000040fa80001,
  0xf3c361070410f543110d82f3df826000c010cf0250df82023201f10c01d28f01b28e83b25e00710b80628e04e1621,
  0xf3c361070410f583110d82f3df826000c010cf0250df82023201f10c01d28f01b28e83b25e00710b80628e04e1621,
  0xf3c361070410f5c3110d82f3df826000c010cf0250df82023201f10c01d28f01b28e83b25e00710b80628e04e1621,
  0xf3c361070410f603110d82f3df826000c010cf0250df82023201f10c01d28f01b28e83b25e00710b80628e04e1621,
  0xf3c361070410f643110d82f3df826000c010cf0250df82023201f10c01d28f01b28e83b25e00710b80628e04e1621,
  0xf3c361070410f683110d82f3df826000c010cf0250df82023201f10c01d28f01b28e83b25e00710b80628e04e1621,
  0xf3c361070410f6c3110d82f3df826000c010cf0250df82023201f10c01d28f01b28e83b25e00710b80628e04e1621,
  0xf3c361070410f703110d82f3df826000c010cf0250df82023201f10c01d28f01b28e83b25e00710b80628e04e1621,
  0xf3c361070410f743110d82f3df826000c010cf0250df82023201f10c01d28f01b28e83b25e00710b80628e04e1621,
  0xf3c361070410f783110d82f3df826000c010cf0250df82023201f10c01d28f01b28e83b25e00710b80628e04e1621,
  alter 21 6 0x1f540010008c000e01a0000a280000052800000429000001,
  0xfb83614284110f03115ac2f3ec026000c010dc0250e302025c81f11681d30981b30903b26200711280630504e1621,
  0xfb83614284110f43115ac2f3ec026000c010dc0250e302025c81f11681d30981b30903b26200711280630504e1621,
  0xfb83614284110f83115ac2f3ec026000c010dc0250e302025c81f11681d30981b30903b26200711280630504e1621,
  0xfb83614284110fc3115ac2f3ec026000c010dc0250e302025c81f11681d30981b30903b26200711280630504e1621,
  0xfb83614284111003115ac2f3ec026000c010dc0250e302025c81f11681d30981b30903b26200711280630504e1621,
  0xfb83614284111043115ac2f3ec026000c010dc0250e302025c81f11681d30981b30903b26200711280630504e1621,
  0xfb83614284111083115ac2f3ec026000c010dc0250e302025c81f11681d30981b30903b26200711280630504e1621,
  0xfb836142841110c3115ac2f3ec026000c010dc0250e302025c81f11681d30981b30903b26200711280630504e1621,
  0xfb83614284111103115ac2f3ec026000c010dc0250e302025c81f11681d30981b30903b26200711280630504e1621,
  0xfb83614284111143115ac2f3ec026000c010dc0250e302025c81f11681d30981b30903b26200711280630504e1621,
  0xfc83614b041114c31141c2f3ed026000c010d78250e502025e81f10881d31781b31703b25c00710800631604e1621,
  0xfc83614b041115031141c2f3ed026000c010d78250e502025e81f10881d31781b31703b25c00710800631604e1621,
  0xfc83614b041115431141c2f3ed026000c010d78250e502025e81f10881d31781b31703b25c00710800631604e1621,
  0xfc83614b041115831141c2f3ed026000c010d78250e502025e81f10881d31781b31703b25c00710800631604e1621,
  0xfc83614b041115c31141c2f3ed026000c010d78250e502025e81f10881d31781b31703b25c00710800631604e1621,
  0xfc83614b041116031141c2f3ed026000c010d78250e502025e81f10881d31781b31703b25c00710800631604e1621,
  0xfc83614b041116431141c2f3ed026000c010d78250e502025e81f10881d31781b31703b25c00710800631604e1621,
  0xfc83614b041116831141c2f3ed026000c010d78250e502025e81f10881d31781b31703b25c00710800631604e1621,
  0xfc83614b041117031141c2f3ed026000c010d78250e502025e81f10881d31781b31703b25c00710800631604e1621,
  0xfc83614b041117431141c2f3ed026000c010d78250e502025e81f10881d31781b31703b25c00710800631604e1621,
  0xfd83615104111a03115dc2f3ef026000c010dc8250e682026001f11a01d32581b32503b26400711980632204e1621,
  0xfd83615104111a43115dc2f3ef026000c010dc8250e682026001f11a01d32581b32503b26400711980632204e1621,
  0xfd83615104111a83115dc2f3ef026000c010dc8250e682026001f11a01d32581b32503b26400711980632204e1621,
  0xfd83615104111ac3115dc2f3ef026000c010dc8250e682026001f11a01d32581b32503b26400711980632204e1621,
  0xfd83615104111b03115dc2f3ef026000c010dc8250e682026001f11a01d32581b32503b26400711980632204e1621,
  0xfd83615104111b43115dc2f3ef026000c010dc8250e682026001f11a01d32581b32503b26400711980632204e1621,
  0xfd83615104111b83115dc2f3ef026000c010dc8250e682026001f11a01d32581b32503b26400711980632204e1621,
  0xfd83615104111bc3115dc2f3ef026000c010dc8250e682026001f11a01d32581b32503b26400711980632204e1621,
  0xfd83615104111c03115dc2f3ef026000c010dc8250e682026001f11a01d32581b32503b26400711980632204e1621,
  0xfd83615104111c43115dc2f3ef026000c010dc8250e682026001f11a01d32581b32503b26400711980632204e1621,
  0xf803612ac410fec31128c2f3f0026000c010d88250e802026181f10f81d2db81b2db03b2650071200062d584e1621,
  0xf803612ac410ff031128c2f3f0026000c010d88250e802026181f10f81d2db81b2db03b2650071200062d584e1621,
  0xf803612ac410ff431128c2f3f0026000c010d88250e802026181f10f81d2db81b2db03b2650071200062d584e1621,
  0xf803612ac410ff831128c2f3f0026000c010d88250e802026181f10f81d2db81b2db03b2650071200062d584e1621,
  0xf803612ac410ffc31128c2f3f0026000c010d88250e802026181f10f81d2db81b2db03b2650071200062d584e1621,
  0xf803612ac41100031128c2f3f0026000c010d88250e802026181f10f81d2db81b2db03b2650071200062d584e1621,
  0xf803612ac41100431128c2f3f0026000c010d88250e802026181f10f81d2db81b2db03b2650071200062d584e1621,
  0xf803612ac41100831128c2f3f0026000c010d88250e802026181f10f81d2db81b2db03b2650071200062d584e1621,
  0xf803612ac41100c31128c2f3f0026000c010d88250e802026181f10f81d2db81b2db03b2650071200062d584e1621,
  0xf803612ac41101031128c2f3f0026000c010d88250e802026181f10f81d2db81b2db03b2650071200062d584e1621,
  0xf903613344110203113cc2f3f1026000c010d48250e982026281f12081d2e981b2e903b25f80711d0062e684e1621,
  0xf903613344110243113cc2f3f1026000c010d48250e982026281f12081d2e981b2e903b25f80711d0062e684e1621,
  0xf903613344110283113cc2f3f1026000c010d48250e982026281f12081d2e981b2e903b25f80711d0062e684e1621,
  0xf9036133441102c3113cc2f3f1026000c010d48250e982026281f12081d2e981b2e903b25f80711d0062e684e1621,
  0xf903613344110303113cc2f3f1026000c010d48250e982026281f12081d2e981b2e903b25f80711d0062e684e1621,
  0xf903613344110343113cc2f3f1026000c010d48250e982026281f12081d2e981b2e903b25f80711d0062e684e1621,
  0xf903613344110383113cc2f3f1026000c010d48250e982026281f12081d2e981b2e903b25f80711d0062e684e1621,
  0xf9036133441103c3113cc2f3f1026000c010d48250e982026281f12081d2e981b2e903b25f80711d0062e684e1621,
  0xf903613344110443113cc2f3f1026000c010d48250e982026281f12081d2e981b2e903b25f80711d0062e684e1621,
  0xf903613344110483113cc2f3f1026000c010d48250e982026281f12081d2e981b2e903b25f80711d0062e684e1621,
  0x10603615f04111e03115202f3f2026000c010db0250eb02026381f11301d34181b34103b26100710f00633e04e1621,
  0x10603615f04111e43115202f3f2026000c010db0250eb02026381f11301d34181b34103b26100710f00633e04e1621,
  0x10603615f04111e83115202f3f2026000c010db0250eb02026381f11301d34181b34103b26100710f00633e04e1621,
  0x10603615f04111ec3115202f3f2026000c010db0250eb02026381f11301d34181b34103b26100710f00633e04e1621,
  0x10603615f04111f03115202f3f2026000c010db0250eb02026381f11301d34181b34103b26100710f00633e04e1621,
  0x10603615f04111f43115202f3f2026000c010db0250eb02026381f11301d34181b34103b26100710f00633e04e1621,
  0x10603615f04111f83115202f3f2026000c010db0250eb02026381f11301d34181b34103b26100710f00633e04e1621,
  0x10603615f04111fc3115202f3f2026000c010db0250eb02026381f11301d34181b34103b26100710f00633e04e1621,
  0x10603615f04112003115202f3f2026000c010db0250eb02026381f11301d34181b34103b26100710f00633e04e1621,
  0x10603615f04112043115202f3f2026000c010db0250eb02026381f11301d34181b34103b26100710f00633e04e1621,
  0x12083616e04113e43116d42f3f3026000c010dd0250ec82026481f11d81d35e01b35d83b26300711600635c04e1621,
  0x12083616e04113e83116d42f3f3026000c010dd0250ec82026481f11d81d35e01b35d83b26300711600635c04e1621,
  0x12083616e04113ec3116d42f3f3026000c010dd0250ec82026481f11d81d35e01b35d83b26300711600635c04e1621,
  0x12083616e04113f03116d42f3f3026000c010dd0250ec82026481f11d81d35e01b35d83b26300711600635c04e1621,
  0x12083616e04113f43116d42f3f3026000c010dd0250ec82026481f11d81d35e01b35d83b26300711600635c04e1621,
  0x12083616e04113f83116d42f3f3026000c010dd0250ec82026481f11d81d35e01b35d83b26300711600635c04e1621,
  0x12083616e04113fc3116d42f3f3026000c010dd0250ec82026481f11d81d35e01b35d83b26300711600635c04e1621,
  0x12083616e04114003116d42f3f3026000c010dd0250ec82026481f11d81d35e01b35d83b26300711600635c04e1621,
  0x12083616e04114043116d42f3f3026000c010dd0250ec82026481f11d81d35e01b35d83b26300711600635c04e1621,
  0x12083616e04114083116d42f3f3026000c010dd0250ec82026481f11d81d35e01b35d83b26300711600635c04e1621,
  alter 21 6 0x23c00100078000e0020000a03c8000503d8000404780001,
  0xfb83614284110e03115ac2f3ec026000c010dc0250e302025c81f11681d30981b30903b26200711280630504e1621,
  alter 21 6 0x71800100004000e01b8000a19f8000519e8000405d00001,
  alter 21 5 0xfac00101ea0000a09f00005099000040f580001,
  alter 21 6 0x71800100004000e01b8000a19f8000519e800041e300001,
  0xfc83614b041113431141c2f3ed026000c010d78250e502025e81f10881d31781b31703b25c00710800631604e1621,
  alter 21 6 0x1e800100010000e00e0000a066000050660000400480001,
  alter 21 6 0x54000100008000e0048000a1e3800051e2800041a800001,
  0xfd83615104111983115dc2f3ef026000c010dc8250e682026001f11a01d32581b32503b26400711980632204e1621,
  alter 21 2 0x14000e07800001, alter 21 1 0x14000e,
  0xf803612ac410fe431128c2f3f0026000c010d88250e802026181f10f81d2db81b2db03b2650071200062d584e1621,
  alter 21 4 0x140010004000050040000400280001,
  0xf903613344110143113cc2f3f1026000c010d48250e982026281f12081d2e981b2e903b25f80711d0062e684e1621,
  alter 21 6 0x1e800100010000e00e0000a066000050660000403d00001,
  0x10603615f04111d43115202f3f2026000c010db0250eb02026381f11301d34181b34103b26100710f00633e04e1621,
  alter 21 6 0x2c0010001c000e00e0000a06b8000506a8000400580001,
  0x12083616e04113d03116d42f3f3026000c010dd0250ec82026481f11d81d35e01b35d83b26300711600635c04e1621,
  alter 21 6 0x29c00100018000e0048000a0390000503b0000405380001,
  alter 21 6 0x1280010000c000e00a0000a048800050498000402500001,
  alter 21 6 0x54000100018000e0048000a1e3800051e2800041a800001, alter 21 0 0x0,
  alter 21 6 0x1e80010001c000e00e0000a066000050660000403d00001, 0xf40b03df826000c010098af064b,
  0xf44b03df826000c010200af064b, 0xf44b0811426000c010204af064b,
  0x18d0bb1080ba000c0122d8b92370b82368b75ad8212360b623583f16181d23503e2348b52340b42338b30f68065d10b20208b11e9b,
  0x1080ba000c0116181d23503e0f68065d10b2020cbc0c9b,
  0x1080ba000c0116181d23503e0f68065d10b20210bc0c9b,
  0x1080ba000c0116181d23503e0f68065d10b20214bc0c9b,
  0x1080ba000c0123583f16181d23503e2338b30f68065d10b20214bd109b,
  0x1080ba000c012370b82368b72360b623583f16181d23503e2340b42338b30f68065d10b2021853189b,
  0x1080ba000c0116181d23503e0f68065d10b20214bc0c9b,
  0x1080ba000c0116181d23503e2338b30f68065d10b20214be0e9b,
  0x1080ba000c012370b82368b723583f16181d23503e2340b42338b30f68065d10b20214bf169b,
  0x1080ba000c012370b823583f16181d23503e2340b42338b30f68065d10b20214c0149b,
  0x1080ba000c0123583f16181d23503e2340b42338b30f68065d10b20214c1129b,
  0x1080ba000c012370b82368b72360b623583f16181d23503e2340b42338b30f68065d10b2021c53189b,
  0x1080ba000c012370b82368b72360b623583f16181d23503e2340b42338b30f68065d10b2022053189b,
  0x1900bb12e4ba000c0122f8b924b8b824b0b75e402124a8b624a03f16301d24983e2490b52488b42480b30208c21028065ea8b21ecb,
  0xf84b03f0026000c010098c3066b, 0xf88b03f0026000c010200c3066b, 0xf88b0811826000c010204c3066b,
  0x1908bb1354ba000c012300b92508b82500b75eb02124f8b624f03f16381d24e83e24e0b524d8b424d0b30208c41030065f10b21ecb,
  0xf94b03f1026000c010098c5066b, 0xf98b03f1026000c010200c5066b, 0xf98b0811c26000c010204c5066b,
  0x18d0bb1080ba000c0122d8b92370b82368b75ad8212360b623583f14e81d23503e2348b52340b42338b30f68065ad0b20208c61e9b]

def rows1000 : Array Nat := #[
  0xc010224c7044b, 0xc0100243c001caf069c, 0xc0100243c001caf069c, 0xc0100a03c0098af069c,
  0xc010228c7044b,
  0x1918bb1454ba000c0122e0b923c8b823c0b75c582123b8b623b03f16101d23a83e23a0b52398b42390b30208c81010065c50b21edb,
  0xfbcb03ec026000c010098c9067b, 0xfc0b03ec026000c010200c9067b, 0xfc0b0812026000c010204c9067b,
  0x18d8bb14c4ba000c0122e8b92418b82410b75d18212408b624003f16201d23f83e23f0b523e8b423e0b30208ca1018065da8b21eeb,
  0xfccb03ed026000c010098cb062b, 0xfd0b03ed026000c010200cb062b, 0xfd0b0812426000c010204cb062b,
  0x1930bb1534ba000c0122f0b92468b82460b75db0212458b624503f16281d24483e2440b52438b42430b30208cc1020065e38b21efb,
  0xfdcb03ef026000c010098cd068b, 0xfe0b03ef026000c010200cd068b, 0xfe0b0812826000c010204cd068b,
  0x12e4ba000c0116301d24983e020cce1028065ea8b20ccb,
  0x12e4ba000c0116301d24983e0210ce1028065ea8b20ccb,
  0x12e4ba000c0116301d24983e0214ce1028065ea8b20ccb,
  0x12e4ba000c0124a03f16301d24983e2480b30214cf1028065ea8b210cb,
  0x12e4ba000c0124b8b824b0b724a8b624a03f16301d24983e2488b42480b30218d01028065ea8b218cb,
  0x12e4ba000c0116301d24983e0214ce1028065ea8b20ccb,
  0x12e4ba000c0116301d24983e2480b30214d11028065ea8b20ecb,
  0x12e4ba000c0124b8b824b0b724a03f16301d24983e2488b42480b30214d21028065ea8b216cb,
  0x12e4ba000c0124b8b824a03f16301d24983e2488b42480b30214d31028065ea8b214cb,
  0x12e4ba000c0124a03f16301d24983e2488b42480b30214d41028065ea8b212cb,
  0x12e4ba000c0124b8b824b0b724a8b624a03f16301d24983e2488b42480b3021cd01028065ea8b218cb,
  0x12e4ba000c0124b8b824b0b724a8b624a03f16301d24983e2488b42480b30220d01028065ea8b218cb,
  0x1354ba000c0116381d24e83e020cd51030065f10b20ccb,
  0x1354ba000c0116381d24e83e0210d51030065f10b20ccb, 0xc0100d4d604cb,
  0x1354ba000c0116381d24e83e0214d51030065f10b20ccb,
  0x1354ba000c0124f03f16381d24e83e24d0b30214d71030065f10b210cb,
  0x1354ba000c012508b82500b724f8b624f03f16381d24e83e24d8b424d0b30218d81030065f10b218cb,
  0x1354ba000c0116381d24e83e0214d51030065f10b20ccb,
  0x1354ba000c0116381d24e83e24d0b30214d91030065f10b20ecb,
  0x1354ba000c012508b82500b724f03f16381d24e83e24d8b424d0b30214da1030065f10b216cb,
  0x1354ba000c012508b824f03f16381d24e83e24d8b424d0b30214db1030065f10b214cb,
  0x1354ba000c0124f03f16381d24e83e24d8b424d0b30214dc1030065f10b212cb, 0xc0100d8d604cb,
  0x1354ba000c012508b82500b724f8b624f03f16381d24e83e24d8b424d0b3021cd81030065f10b218cb,
  0x1354ba000c012508b82500b724f8b624f03f16381d24e83e24d8b424d0b30220d81030065f10b218cb,
  0xc0100dcd604cb, 0xc0100dcd604cb, 0xc0100dcd604cb, 0xc0100e4d604cb, 0xc0100e4d604cb,
  0x1064b03f2026000c010098dd067b, 0x1068b03f2026000c010200dd067b, 0x1068b0812c26000c010204dd067b,
  0x18e8bb1614ba000c012308b92558b82550b75f18212548b625403f16401d25383e2530b52528b42520b30208de1038065f78b21edb,
  0xc010098af049b, 0xc01001caf049b, 0xc01001caf049b, 0xc01022caf049b, 0xc010230af049b,
  0xc010234af049b, 0xc010238af049b, 0xc01023caf049b, 0xc010240af049b, 0xc010244af049b,
  0xc010248af049b, 0xc0117d85800243c001cc908dc, 0xc0117d85800243c001cc908dc,
  0xc0117e05800a03c0098c908dc, 0xc01024caf049b, 0xc010250af049b, 0xc010254af049b, 0xc010258af049b,
  0xc01025caf049b, 0xc010260af049b, 0xc010264af049b, 0xc010268af049b, 0xc01026caf049b,
  0xc010270af049b, 0xc010274af049b, 0xc010278af049b, 0xc0100bcaf049b,
  0x1ebc96000c0110481d00a03c0098df089c, 0x1454ba000c0116101d23a83e020ce01010065c50b20cdb,
  0x1454ba000c0116101d23a83e0210e01010065c50b20cdb, 0xc0100c0af049b, 0xc0100ccaf049b,
  0x1454ba000c0116101d23a83e0214e01010065c50b20cdb,
  0x1454ba000c0123b03f16101d23a83e2390b30214e11010065c50b210db,
  0x1454ba000c0123c8b823c0b723b8b623b03f16101d23a83e2398b42390b30218e21010065c50b218db,
  0x1454ba000c0116101d23a83e0214e01010065c50b20cdb,
  0x1454ba000c0116101d23a83e2390b30214e31010065c50b20edb,
  0x1454ba000c0123c8b823c0b723b03f16101d23a83e2398b42390b30214e41010065c50b216db,
  0x1454ba000c0123c8b823b03f16101d23a83e2398b42390b30214e51010065c50b214db,
  0x1454ba000c0123b03f16101d23a83e2398b42390b30214e61010065c50b212db,
  0x1454ba000c0123c8b823c0b723b8b623b03f16101d23a83e2398b42390b3021ce21010065c50b218db,
  0x1454ba000c0123c8b823c0b723b8b623b03f16101d23a83e2398b42390b30220e21010065c50b218db,
  0xc0100243c80b83a001ce708cc, 0xc0100243c80b83a001ce708cc, 0xc0180e49c002853069b,
  0xc0180e49c002853069b, 0xc0100243c001cc306cc, 0xc0100243c001cc306cc, 0xc0100a03c0098c306cc,
  0x14c4ba000c0116201d23f83e020ce81018065da8b20ceb,
  0x14c4ba000c0116201d23f83e0210e81018065da8b20ceb, 0xc010028ea00243c80e4e908cc,
  0xc010028ea00243c80e4e908cc, 0xc0100c8ea00a03c8104e908cc, 0xc0100d4af049b,
  0x14c4ba000c0116201d23f83e0214e81018065da8b20ceb,
  0x14c4ba000c0124003f16201d23f83e23e0b30214eb1018065da8b210eb,
  0x14c4ba000c012418b82410b72408b624003f16201d23f83e23e8b423e0b30218621018065da8b218eb,
  0x14c4ba000c0116201d23f83e0214e81018065da8b20ceb,
  0x14c4ba000c0116201d23f83e23e0b30214ec1018065da8b20eeb,
  0x14c4ba000c012418b82410b724003f16201d23f83e23e8b423e0b30214ed1018065da8b216eb,
  0x14c4ba000c012418b824003f16201d23f83e23e8b423e0b30214ee1018065da8b214eb,
  0x14c4ba000c0124003f16201d23f83e23e8b423e0b30214ef1018065da8b212eb, 0xc0100d8af049b,
  0x14c4ba000c012418b82410b72408b624003f16201d23f83e23e8b423e0b3021c621018065da8b218eb,
  0x14c4ba000c012418b82410b72408b624003f16201d23f83e23e8b423e0b30220621018065da8b218eb,
  0xc0100dcaf049b, 0xc0100dcaf049b, 0xc0100dcaf049b, 0xc0100e4af049b, 0xc0100e4af049b,
  0xc0100a03c80e83a0098e708cc, 0xc0181049c00c853069b, 0x1f4c96000c0110581d00a03c0098f008dc,
  0x1534ba000c0116281d24483e020cf11020065e38b20cfb,
  0x1534ba000c0116281d24483e0210f11020065e38b20cfb,
  0x1534ba000c0116281d24483e0214f11020065e38b20cfb,
  0x1534ba000c0124503f16281d24483e2430b30214f21020065e38b210fb,
  0x1534ba000c012468b82460b72458b624503f16281d24483e2438b42430b30218f31020065e38b218fb,
  0x1534ba000c0116281d24483e0214f11020065e38b20cfb,
  0x1534ba000c0116281d24483e2430b30214f41020065e38b20efb,
  0x1534ba000c012468b82460b724503f16281d24483e2438b42430b30214f51020065e38b216fb,
  0x1534ba000c012468b824503f16281d24483e2438b42430b30214f61020065e38b214fb,
  0x1534ba000c0124503f16281d24483e2438b42430b30214f71020065e38b212fb,
  0x1534ba000c012468b82460b72458b624503f16281d24483e2438b42430b3021cf31020065e38b218fb,
  0x1534ba000c012468b82460b72458b624503f16281d24483e2438b42430b30220f31020065e38b218fb,
  0xc010224f8046b, 0xc010228f8046b, 0xc010224f9046b,
  0x1614ba000c0116401d25383e020cfa1038065f78b20cdb,
  0x1614ba000c0116401d25383e0210fa1038065f78b20cdb, 0xc010228f9046b,
  0x1614ba000c0116401d25383e0214fa1038065f78b20cdb,
  0x1614ba000c0125403f16401d25383e2520b30214fb1038065f78b210db,
  0x1614ba000c012558b82550b72548b625403f16401d25383e2528b42520b30218fc1038065f78b218db,
  0x1614ba000c0116401d25383e0214fa1038065f78b20cdb,
  0x1614ba000c0116401d25383e2520b30214fd1038065f78b20edb,
  0x1614ba000c012558b82550b725403f16401d25383e2528b42520b30214fe1038065f78b216db,
  0x1614ba000c012558b825403f16401d25383e2528b42520b30214ff1038065f78b214db,
  0x1614ba000c0125403f16401d25383e2528b42520b30215001038065f78b212db,
  0x1614ba000c012558b82550b72548b625403f16401d25383e2528b42520b3021cfc1038065f78b218db,
  0x1614ba000c012558b82550b72548b625403f16401d25383e2528b42520b30220fc1038065f78b218db,
  0x1218b03f3026000c01009901068b, 0xc0100243c001cc506cc, 0xc0100243c001cc506cc,
  0xc0100a03c0098c506cc, 0x121cb03f3026000c01020101068b, 0x121cb0813026000c01020501068b,
  0x1910bb16f8ba000c012310b925a8b825a0b75f80212598b625903f16481d25883e2580b52578b42570b30209021040065fb0b21efb,
  0xc0100243c80b861001d0308dc, 0xc0100243c80b861001d0308dc, 0x1fc096000c010f701d00a03c00990408ec,
  0xc0100290600243c80e50508dc, 0xc0100290600243c80e50508dc, 0xc0100c90600a03c81050508dc,
  0xc0100a03c80e86100990308dc, 0xc01022507047b, 0xc0100243c80b864001d0308fc,
  0xc0100243c80b864001d0308fc, 0xc0100243c001ccb06ec, 0xc0100243c001ccb06ec, 0xc0100a03c0098cb06ec,
  0xc01022907047b, 0xc0100290600243c80e50808fc, 0xc0100290600243c80e50808fc,
  0xc0100c90600a03c81050808fc, 0xc0100d50904db, 0xc0100d90904db, 0xc0100dd0904db, 0xc0100dd0904db,
  0xc0100dd0904db, 0xc0100e50904db, 0xc0100e50904db, 0xc0100a03c80e86400990308fc, 0xc0102250a042b,
  0xc0100bcc304cb, 0x20b496000c0110501d00a03c00990b08fc, 0xc0102290a042b, 0xc0100c0c304cb,
  0xc0100ccc304cb, 0xc0100243c001cc906dc, 0xc0100243c001cc906dc, 0xc0100a03c0098c906dc,
  0xc010098c304cb, 0xc0180fc3a00bce706cb, 0xc0180e83a0098e706cb, 0xc0102250c048b,
  0xc0181003a00c0e706cb]

def rows1200 : Array Nat := #[
  0xc010028d880e49c06cb, 0xc010028d880e49c06cb, 0xc0100243c001cdd06dc, 0xc0100243c001cdd06dc,
  0xc0100a03c0098dd06dc, 0xc0181083a00cce706cb, 0xc01001cc304cb, 0xc01001cc304cb, 0xc01022cc304cb,
  0xc010230c304cb, 0xc0102290c048b, 0xc010234c304cb, 0xc010238c304cb, 0xc01023cc304cb,
  0xc010240c304cb, 0xc010244c304cb, 0xc010248c304cb, 0xc01024cc304cb, 0xc010250c304cb,
  0xc010254c304cb, 0xc010258c304cb, 0xc01025cc304cb, 0xc010260c304cb, 0xc010264c304cb,
  0xc010268c304cb, 0xc01026cc304cb, 0xc010270c304cb, 0xc010274c304cb, 0xc010278c304cb,
  0xc010098c504cb, 0xc0100c8ea8104e906cb, 0xc0100243c001ccd06fc, 0xc0100243c001ccd06fc,
  0xc0100a03c0098cd06fc, 0xc01001cc504cb, 0xc01001cc504cb, 0xc01022cc504cb, 0xc010230c504cb,
  0xc010234c504cb, 0xc010238c504cb, 0xc01023cc504cb, 0xc010240c504cb, 0xc010244c504cb,
  0xc010248c504cb, 0xc01024cc504cb, 0xc010250c504cb, 0xc010254c504cb, 0xc010258c504cb,
  0xc01025cc504cb, 0xc010260c504cb, 0xc010264c504cb, 0xc010268c504cb, 0xc01026cc504cb,
  0xc010270c504cb, 0xc010274c504cb, 0xc010278c504cb,
  0x18e8bb1614ba000c012308b92558b82550b75f18212548b625403f16101d25383e2530b52528b42520b302090d1038065c50b21edb,
  0xc0100d4c504cb, 0xc0100d8c504cb, 0xc0100dcc504cb, 0xc0100dcc504cb, 0xc0100dcc504cb,
  0xc0100e4c504cb, 0xc0100e4c504cb,
  0x1910bb16f8ba000c012310b925a8b825a0b75f80212598b625903f16281d25883e2580b52578b42570b302090e1040065e38b21efb,
  0xc0102250f047b, 0xc0100c8d881049c06cb, 0xc0100bcc504cb,
  0x16f8ba000c0116481d25883e020d101040065fb0b20cfb,
  0x16f8ba000c0116481d25883e0211101040065fb0b20cfb, 0xc0102290f047b, 0xc0100c0c504cb,
  0xc0100ccc504cb, 0x16f8ba000c0116481d25883e0215101040065fb0b20cfb,
  0x16f8ba000c0125903f16481d25883e2570b30215111040065fb0b210fb,
  0x16f8ba000c0125a8b825a0b72598b625903f16481d25883e2578b42570b30219121040065fb0b218fb,
  0x16f8ba000c0116481d25883e0215101040065fb0b20cfb,
  0x16f8ba000c0116481d25883e2570b30215131040065fb0b20efb,
  0x16f8ba000c0125a8b825a0b725903f16481d25883e2578b42570b30215141040065fb0b216fb,
  0x16f8ba000c0125a8b825903f16481d25883e2578b42570b30215151040065fb0b214fb,
  0x16f8ba000c0125903f16481d25883e2578b42570b30215161040065fb0b212fb,
  0x16f8ba000c0125a8b825a0b72598b625903f16481d25883e2578b42570b3021d121040065fb0b218fb,
  0x16f8ba000c0125a8b825a0b72598b625903f16481d25883e2578b42570b30221121040065fb0b218fb,
  0xc010028d080e49c06cb, 0xc010028d080e49c06cb, 0xc0100c8d081049c06cb,
  0x1908bb1354ba000c012300b92508b82500b75eb02124f8b624f03f16301d24e83e24e0b524d8b424d0b30209171030065ea8b21ecb,
  0xc0100bccb04eb, 0xc0100c0cb04eb, 0xc0100cccb04eb, 0xc010098c904db, 0xc0180fc6100bd0306db,
  0xc0180e86100990306db, 0xc0181006100c10306db, 0xc0100286280e49c06eb, 0xc0100286280e49c06eb,
  0xc0100c90681050506db, 0xc0181086100cd0306db, 0xc01001cc904db, 0xc01001cc904db, 0xc01022cc904db,
  0xc010230c904db, 0xc010234c904db, 0xc010238c904db, 0xc0100c9198104a200e918089b, 0xc01023cc904db,
  0xc010240c904db, 0xc010244c904db, 0xc010248c904db, 0xc0117d85800243c001d0508dc,
  0xc0117d85800243c001d0508dc, 0xc0117e05800a03c00990508dc, 0xc01024cc904db, 0xc010250c904db,
  0xc010254c904db, 0xc010258c904db, 0xc01025cc904db, 0xc010260c904db, 0xc010264c904db,
  0xc010268c904db, 0xc01026cc904db, 0xc010270c904db, 0xc010274c904db, 0xc010278c904db,
  0xc010098cb04eb, 0xc0100c86281049c06eb, 0xc01001ccb04eb, 0xc01001ccb04eb, 0xc01022ccb04eb,
  0xc010230cb04eb, 0xc010234cb04eb, 0xc010238cb04eb, 0xc01023ccb04eb, 0xc010240cb04eb,
  0xc010244cb04eb, 0xc010248cb04eb, 0xc01024ccb04eb, 0xc010250cb04eb, 0xc010254cb04eb,
  0xc010258cb04eb, 0xc01025ccb04eb, 0xc010260cb04eb, 0xc010264cb04eb, 0xc010268cb04eb,
  0xc01026ccb04eb, 0xc010270cb04eb, 0xc010274cb04eb, 0xc010278cb04eb, 0xc010098cd04fb,
  0xc0180fc6400bd0306fb, 0xc0180e86400990306fb, 0xc0181006400c10306fb, 0xc0100bcdd04db,
  0xc0181086400cd0306fb, 0xc01001ccd04fb, 0xc01001ccd04fb, 0xc01022ccd04fb, 0xc010230cd04fb,
  0xc010234cd04fb, 0xc010238cd04fb, 0xc0100c0dd04db, 0xc0100ccdd04db, 0xc0100c9198104a200e91a08db,
  0xc01023ccd04fb, 0xc010240cd04fb, 0xc010244cd04fb, 0xc0100d4cb04eb, 0xc010248cd04fb,
  0xc01024ccd04fb, 0xc010250cd04fb, 0xc010254cd04fb, 0xc010258cd04fb, 0xc01025ccd04fb,
  0xc010260cd04fb, 0xc010264cd04fb, 0xc0100d8cb04eb, 0xc010268cd04fb, 0xc01026ccd04fb,
  0xc010270cd04fb, 0xc0100dccb04eb, 0xc0100dccb04eb, 0xc0100dccb04eb, 0xc010274cd04fb,
  0xc010278cd04fb, 0xc0100e4cb04eb, 0xc0100e4cb04eb, 0xc0100c90681050806fb, 0xc0100bcc904db,
  0xc0100c0c904db, 0xc0100ccc904db, 0xc0100d4cd04fb, 0xc0100d8cd04fb, 0xc0100dccd04fb,
  0xc0100dccd04fb, 0xc0100dccd04fb, 0xc0100e4cd04fb, 0xc0100e4cd04fb, 0xc010028fc80e49c06db,
  0xc010028fc80e49c06db, 0xc0100bccd04fb]

def rows1400 : Array Nat := #[
  0xc01001c9c002066069a, 0xc01001c9c002066069a, 0xc0100c0cd04fb, 0xc0100cccd04fb, 0xc010098dd04db,
  0xc010028e280e49c06db, 0xc010028e280e49c06db, 0xc0100243c001d0106fc, 0xc0100243c001d0106fc,
  0xc0100a03c00990106fc, 0xc01001cdd04db, 0xc01001cdd04db, 0xc01022cdd04db, 0xc010230dd04db,
  0xc010234dd04db, 0xc010238dd04db, 0xc01023cdd04db, 0xc010240dd04db, 0xc010244dd04db,
  0xc010248dd04db, 0xc01024cdd04db, 0xc010250dd04db, 0xc010254dd04db, 0xc010258dd04db,
  0xc01025cdd04db, 0xc010260dd04db, 0xc010264dd04db, 0xc010268dd04db, 0xc01026cdd04db,
  0xc010270dd04db, 0xc010274dd04db, 0xc010278dd04db, 0xc0100d4dd04db, 0xc0100d8dd04db,
  0xc0100dcdd04db, 0xc0100dcdd04db, 0xc0100dcdd04db, 0xc0100e4dd04db, 0xc0100e4dd04db,
  0xc0102251b048b, 0xc010028f380e49c06fb, 0xc010028f380e49c06fb, 0xc0100c8fc81049c06db,
  0xc0102291b048b, 0xc0100bc9c009c66069a, 0xc0100989c009c66069a, 0xc0100c09c00c466069a,
  0xc0100c8e281049c06db, 0xc0100cc9c00d066069a, 0xc0100c8f381049c06fb, 0xc0100c9198104a200e91c08eb,
  0xc0100c9198104a200e91d08fb, 0xc0100243c80e50506dc, 0xc0100243c80e50506dc, 0xc0100a03c81050506dc,
  0xc0100243c80e50806fc, 0xc0100243c80e50806fc, 0xc0100a03c81050806fc, 0xc0100243c80e4e906cc,
  0xc0100243c80e4e906cc, 0xc0100a03c8104e906cc, 0xc0100bd0104fb, 0xc0100c10104fb, 0xc0100cd0104fb,
  0xc0100990104fb, 0xc0100291280e49c06fb, 0xc0100291280e49c06fb, 0xc01001d0104fb, 0xc01001d0104fb,
  0xc01022d0104fb, 0xc0102310104fb, 0xc0102350104fb, 0xc0102390104fb, 0xc01023d0104fb,
  0xc0102410104fb, 0xc0102450104fb, 0xc0102490104fb, 0xc01024d0104fb, 0xc0102510104fb,
  0xc0102550104fb, 0xc0102590104fb, 0xc01025d0104fb, 0xc0102610104fb, 0xc0102650104fb,
  0xc0102690104fb, 0xc01026d0104fb, 0xc0102710104fb, 0xc0102750104fb, 0xc0102790104fb,
  0xc0100d50104fb, 0xc0100d90104fb, 0xc0100dd0104fb, 0xc0100dd0104fb, 0xc0100dd0104fb,
  0xc0100e50104fb, 0xc0100e50104fb, 0xc0100c91281049c06fb, 0xc01002069001c9c06ea,
  0xc01002069001c9c06ea, 0xc01009c6900bc9c06ea, 0xc01009c6900989c06ea, 0xc0100c46900c09c06ea,
  0xc0100d06900cc9c06ea, 0xc0100d51e04ea, 0xc0100d91e04ea, 0xc0100dd1e04ea, 0xc0100dd1e04ea,
  0xc0100dd1e04ea, 0xc0100e51e04ea, 0xc0100e51e04ea, 0xc0100286980e49c06ea, 0xc0100286980e49c06ea,
  0xc0100c86981049c06ea, 0xc0181050504db, 0xc0181050804fb, 0xc018104e904cb,
  0x1c6c3629fd2721e5261e652521f9241e5d233ed026000c0142c12238b82044c92158492037781d0b68851a701058411f3770063f50031825,
  0x1c6c362a012721e5261e652521f9241e5d233ed026000c0142c12238b82044c92158492037781d0b88851a701058411f3770063f50031825,
  alter 8 2 0x4f4000d06700003, alter 26 2 0x4b0000d00800005, alter 8 2 0x4ec000d06e80003,
  alter 8 1 0x6f80003, alter 26 0 0x0, alter 8 1 0x6b80003, alter 26 1 0x400005,
  alter 8 1 0x6980003, alter 8 1 0x7600003, alter 8 2 0x65c000d02580003,
  alter 26 2 0x608000d04e80005, alter 8 2 0x654000d02e00003, alter 8 1 0x2e80003,
  alter 26 1 0x4300005, alter 8 1 0x2a80003, alter 26 1 0x4700005, alter 8 1 0x2880003,
  alter 8 1 0x2900003, alter 8 2 0x648000d02980003, alter 26 2 0x614000d05a80005,
  alter 8 2 0x640000d03200003, alter 8 1 0x3280003, alter 26 1 0x5f00005, alter 8 1 0x3e80003,
  alter 26 1 0x5300005, alter 8 1 0x3c80003, alter 8 1 0x3d00003, alter 8 2 0x644000d03d80003,
  alter 26 2 0x620000d05600005, alter 8 2 0x67c000d03980003, alter 8 1 0x600003,
  alter 26 1 0x6a80005, alter 8 1 0x200003, alter 26 1 0x6e80005, alter 8 0 0x0, alter 8 1 0x80003,
  0x1c6c3621e5261e65251e61241e5d233ed026000c0142c12238b82044c92158492037781d58411f3770063f50031423,
  0x1db036255d26211125248524210d233f1026000c0146d9223930204a212159e12038501d59d91f38480641c8031423,
  0x1c6c3621e5261e652521f9241e5d233ed026000c0142c12238b82044c92158492037781d58411f3770063f50031423,
  0x1d7c36251126208d252519242089233f2026000c0145e12238e02049192159a12037c01d59991f37b8064148031423,
  0x1da036253d2620cd2525412420c9233f3026000c0146592239082049992159c12038081d59b91f3800064168031423,
  alter 12 3 0x21c000f0c58000e06780008, alter 12 1 0x6e00008, alter 12 1 0x6900008,
  alter 12 1 0x6b80008, alter 12 1 0x6a00008, alter 12 3 0x334000f0df0000e02000008,
  alter 12 1 0x2f00008, alter 12 1 0x2e00008, alter 12 1 0x2880008, alter 12 1 0x2b00008,
  alter 12 3 0x33c000f0e2c000e03400008, alter 12 1 0x3300008, alter 12 1 0x3200008,
  alter 12 1 0x3c80008, alter 12 1 0x3f00008, alter 12 3 0x344000f0e50000e03980008,
  alter 12 1 0x480008, alter 12 1 0x780008, alter 12 0 0x0, alter 12 1 0x80008,
  0x1c6c3622052a2835292469281e5d233ed026000c0142c12238b82050d12158492037781d59d91f3770063f58031423,
  0x1c6c361e99251e5d233ed026000c0142c12238b82045312158492037781d58411f3770063f58031423,
  0x1c6c361e9d251e5d233ed026000c0142c12238b82045392158492037781d58411f3770063f58031423,
  0x1d7c36209d252089233f2026000c0145e12238e02049392159a12037c01d59991f37b8064300031423,
  0x1d7c3620a1252089233f2026000c0145e12238e02049412159a12037c01d59991f37b8064300031423,
  0x1da03620e52520c9233f3026000c0146592239082049c92159c12038081d59b91f3800064348031423,
  0x1da03620e92520c9233f3026000c0146592239082049d12159c12038081d59b91f3800064348031423,
  0x1db036211d25210d233f1026000c0146d9223930204a392159e12038501d59d91f3848064368031423,
  0x1db036212125210d233f1026000c0146d9223930204a412159e12038501d59d91f3848064368031423,
  0x18d4bb000c0122d8b95ad8212348b5027d2b0a9a, 0x18d4bb000c01813cb98138218134b502192b0a9a,
  0x18dcbb000c0122e8b95d182123f0b5027d2c0aea, 0x18dcbb000c018148b98144218140b502192c0aea,
  0xc0100207b001c9c06cb, 0xc0100207b001c9c06cb, 0x18ecbb000c012308b95f18212530b5027d2d0ada,
  0x18ecbb000c018154b9815021814cb502192d0ada, 0xc01009c7b00bc9c06cb, 0xc01009c7b00989c06cb,
  0xc0100c47b00c09c06cb, 0xc0100d07b00cc9c06cb]

end SourceAtlas.Python.Automaton
